import LiveShader.Answer.Wire
import LiveShader.Proofs.Reading
import LiveShader.Proofs.Records

/-!
# Which objects are answers

`Answer.Described` says in terms of the values of an object, without a reader, which answer the
object is; `ShaderCode.Described` does the same for the shader code in it. An optional value may be
left out or `null` (`Json.Given`). Nothing is said of the order of members, nor of members with
other names.

Results:
* `ShaderCode.reader`: shader code is read exactly from the values that describe it.
* `Answer.readMembers_iff`: an answer is read exactly from the objects that describe it.
* `Answer.decode_object`: so it is with every text of an object, and every other text of an object
  counts as a failure of the service.
-/

namespace LiveShader

namespace Json

/-! ## Optional values -/

/-- The values found for something optional: none, `null`, or one that has it. -/
inductive Given {α : Type} (P : Value → α → Prop) : List Value → Option α → Prop where
  | leftOut : Given P [] none
  | null : Given P [.null] none
  | present {v : Value} {a : α} (h : P v a) : Given P [v] (some a)

@[simp] theorem given_nil {α : Type} {P : Value → α → Prop} {o : Option α} :
    Given P [] o ↔ o = none := by
  constructor
  · rintro ⟨⟩
    rfl
  · rintro rfl
    exact .leftOut

/-- The value is this text. -/
def Value.IsText (v : Value) (t : String) : Prop :=
  v = .text t

variable {R α β : Type} {read : Doc → Except Problem α} {P : Value → α → Prop}

/-- A reader that reads exactly the values with the property `P`, and not `null`. -/
structure Reader (read : Doc → Except Problem α) (P : Value → α → Prop) : Prop where
  read_iff : ∀ v a, read v.doc = .ok a ↔ P v a
  not_null : ∀ a, ¬ P .null a

theorem reader_text : Reader Doc.readText Value.IsText where
  read_iff v t := by cases v <;> simp [Value.doc, Doc.readText, Value.IsText]
  not_null t := by simp [Value.IsText]

theorem readBool_iff {v : Value} {b : Bool} : Doc.readBool v.doc = .ok b ↔ v = .bool b := by
  cases v with
  | number w =>
    cases hw : w.value <;> simp [Value.doc, Doc.readBool, hw, Except.map]
  | _ => simp [Value.doc, Doc.readBool]

/-- A required field admits exactly one value, one that it reads. -/
theorem RecordField.admits_required {name : String} {store : α → R → R} {r : R}
    {values : List Value} :
    RecordField.Admits ⟨name, true, .of read store⟩ r values ↔
      ∃ v a, values = [v] ∧ read v.doc = .ok a := by
  constructor
  · rintro (⟨-, ⟨⟩⟩ | ⟨v, r', hv, hput⟩)
    obtain ⟨a, ha, -⟩ := Setter.of_eq_ok.mp hput
    exact ⟨v, a, hv, ha⟩
  · rintro ⟨v, a, hv, ha⟩
    exact .inr ⟨v, _, hv, Setter.of_eq_ok.mpr ⟨a, ha, rfl⟩⟩

namespace Reader

variable {v : Value} {values : List Value} {o o' : Option α} {store : Option α → R → R} {r r' : R}

/-- An optional value is read if it is given. -/
theorem optional_iff (h : Reader read P) : Doc.readOptional read v.doc = .ok o ↔ Given P [v] o := by
  have hvalue (hd : ∀ d, v.doc = d → d ≠ .bare (.ok .null)) :
      Doc.readOptional read v.doc = (read v.doc).map some := by
    unfold Doc.readOptional
    split
    · next heq => exact absurd rfl (hd _ heq)
    · rfl
  by_cases hn : v = .null
  · subst hn
    constructor
    · rintro ⟨⟩
      exact .null
    · rintro (_ | _ | hp)
      · rfl
      · exact absurd hp (h.not_null _)
  · rw [hvalue fun d hd hdn => hn ?_]
    · constructor
      · intro hr
        obtain ⟨a, hv, rfl⟩ := map_eq_ok.mp hr
        exact .present ((h.read_iff v a).mp hv)
      · rintro (_ | _ | hp)
        · exact absurd rfl hn
        · rw [(h.read_iff v _).mpr hp]
          rfl
    · rw [hdn] at hd
      cases v with
      | null => rfl
      | number w => cases hw : w.value <;> simp [Value.doc, hw, Except.map] at hd
      | _ => simp [Value.doc] at hd

/-- What is given is one thing only. -/
theorem given_unique (h : Reader read P) (hg : Given P values o) (hg' : Given P values o') :
    o = o' := by
  cases hg with
  | leftOut =>
    cases hg'
    rfl
  | null => exact Except.ok.inj ((h.optional_iff.mpr .null).symm.trans (h.optional_iff.mpr hg'))
  | present hp =>
    exact Except.ok.inj ((h.optional_iff.mpr (.present hp)).symm.trans (h.optional_iff.mpr hg'))

/-- A field that need not come admits exactly what is given. -/
theorem admits_iff (h : Reader read P) {name : String} :
    RecordField.Admits ⟨name, false, .of (Doc.readOptional read) store⟩ r values ↔
      ∃ o, Given P values o := by
  constructor
  · rintro (⟨rfl, -⟩ | ⟨v, r', rfl, hput⟩)
    · exact ⟨none, .leftOut⟩
    · obtain ⟨o, ho, -⟩ := Setter.of_eq_ok.mp hput
      exact ⟨o, h.optional_iff.mp ho⟩
  · have hread {v : Value} {o : Option α} (hg : Given P [v] o) :
        Setter.of (Doc.readOptional read) store r v.doc = .ok (store o r) :=
      Setter.of_eq_ok.mpr ⟨o, h.optional_iff.mpr hg, rfl⟩
    rintro ⟨o, _ | _ | hp⟩
    · exact .inl ⟨rfl, rfl⟩
    · exact .inr ⟨_, _, rfl, hread .null⟩
    · exact .inr ⟨_, _, rfl, hread (.present hp)⟩

/-- An optional item of an array is read if it is given. -/
theorem fill_iff (h : Reader read P) {short : Nat → R → Except Problem R} {n : Nat}
    {setters : List (Setter R)} {items : List Value} :
    (Value.itemDocs (v :: items)).fill short n r (.of (Doc.readOptional read) store :: setters) =
        .ok r' ↔
      ∃ o, Given P [v] o ∧
        (Value.itemDocs items).fill short (n + 1) (store o r) setters = .ok r' := by
  rw [Value.itemDocs, Items.fill, bind_eq_ok]
  constructor
  · rintro ⟨r₁, hput, hr⟩
    obtain ⟨o, ho, rfl⟩ := Setter.of_eq_ok.mp hput
    exact ⟨o, h.optional_iff.mp ho, hr⟩
  · rintro ⟨o, hg, hr⟩
    exact ⟨_, Setter.of_eq_ok.mpr ⟨o, h.optional_iff.mpr hg, rfl⟩, hr⟩

/-- An optional part of a record is what was given for it. -/
theorem given (h : Reader read P) {rec : Record R} {name : String} {get : R → Option α}
    (hpart : rec.Part name get (Doc.readOptional read)) (hblank : get rec.blank = none)
    {members : List (String × Value)}
    (hr : rec.readMembers [] rec.blank (Value.memberDocs members) = .ok r') :
    Given P (valuesOf members name) (get r') := by
  rcases hpart.value (List.not_mem_nil) hr with ⟨hnil, hget⟩ | ⟨v, hv, hread⟩
  · rw [hnil, hget, hblank]
    exact .leftOut
  · rw [hv]
    exact h.optional_iff.mp hread

end Reader

end Json

open Json

/-! ## Shader code -/

namespace ShaderCode

/-- A value that is some shader code: an object, or an array of the three texts in order. -/
inductive Described : Value → ShaderCode → Prop where
  | map {members : List (String × Value)} {c : ShaderCode}
      (vertex : Given Value.IsText (valuesOf members "vertexShader") c.vertex)
      (fragment : Given Value.IsText (valuesOf members "fragmentShader") c.fragment)
      (combined : Given Value.IsText (valuesOf members "combinedShader") c.combined) :
      Described (.map members) c
  | seq {items : List Value} {c : ShaderCode} (length : items.length ≤ 3)
      (vertex : Given Value.IsText items[0]?.toList c.vertex)
      (fragment : Given Value.IsText items[1]?.toList c.fragment)
      (combined : Given Value.IsText items[2]?.toList c.combined) : Described (.seq items) c

theorem record_plain : record.Plain where
  field? := by simp [record, Record.field?]
  steady := by simp [record, Setter.steady_of]

theorem part_vertex : record.Part "vertexShader" vertex (Doc.readOptional Doc.readText) where
  sets := ⟨_, rfl, Setter.sets_of fun _ _ => rfl⟩
  keeps := by simp [record, Setter.keeps_of]

theorem part_fragment : record.Part "fragmentShader" fragment (Doc.readOptional Doc.readText) where
  sets := ⟨_, rfl, Setter.sets_of fun _ _ => rfl⟩
  keeps := by simp [record, Setter.keeps_of]

theorem part_combined : record.Part "combinedShader" combined (Doc.readOptional Doc.readText) where
  sets := ⟨_, rfl, Setter.sets_of fun _ _ => rfl⟩
  keeps := by simp [record, Setter.keeps_of]

/-- An object is read as shader code exactly if it describes it. -/
theorem readMembers_iff {members : List (String × Value)} {c : ShaderCode} :
    record.readMembers [] record.blank (Value.memberDocs members) = .ok c ↔
      Described (.map members) c := by
  have described {c : ShaderCode}
      (hr : record.readMembers [] record.blank (Value.memberDocs members) = .ok c) :
      Described (.map members) c :=
    .map (reader_text.given part_vertex rfl hr) (reader_text.given part_fragment rfl hr)
      (reader_text.given part_combined rfl hr)
  refine ⟨described, ?_⟩
  rintro ⟨hvertex, hfragment, hcombined⟩
  obtain ⟨c', hr⟩ :
      ∃ c', record.readMembers [] record.blank (Value.memberDocs members) = .ok c' := by
    rw [Record.readMembers_iff record_plain]
    simp only [record, List.forall_mem_cons, List.not_mem_nil, false_implies, implies_true,
      and_true]
    exact ⟨reader_text.admits_iff.mpr ⟨_, hvertex⟩, reader_text.admits_iff.mpr ⟨_, hfragment⟩,
      reader_text.admits_iff.mpr ⟨_, hcombined⟩⟩
  obtain ⟨hvertex', hfragment', hcombined'⟩ := described hr
  have hc : c' = c := by
    obtain ⟨_, _, _⟩ := c
    obtain ⟨_, _, _⟩ := c'
    rw [mk.injEq]
    exact ⟨reader_text.given_unique hvertex' hvertex,
      reader_text.given_unique hfragment' hfragment,
      reader_text.given_unique hcombined' hcombined⟩
  rw [hr, hc]

theorem short_eq (n : Nat) (c : ShaderCode) : record.short n c = .ok c := by
  have hnone : (record.fields.drop n).findIdx? (fun f => f.required) = none := by
    rw [List.findIdx?_eq_none_iff]
    intro f hf
    have hmem := List.mem_of_mem_drop hf
    simp only [record, List.mem_cons, List.not_mem_nil, or_false] at hmem
    rcases hmem with rfl | rfl | rfl <;> rfl
  rw [Record.short, hnone]

theorem described_seq {items : List Value} {c : ShaderCode} :
    Described (.seq items) c ↔ items.length ≤ 3 ∧ Given Value.IsText items[0]?.toList c.vertex ∧
      Given Value.IsText items[1]?.toList c.fragment ∧
        Given Value.IsText items[2]?.toList c.combined :=
  ⟨fun (.seq hl hv hf hc) => ⟨hl, hv, hf, hc⟩, fun ⟨hl, hv, hf, hc⟩ => .seq hl hv hf hc⟩

/-- An array may end early. -/
theorem fill_nil {n : Nat} {c : ShaderCode} {setters : List (Setter ShaderCode)} :
    (Value.itemDocs []).fill record.short n c setters = .ok c := by
  cases setters with
  | nil => rfl
  | cons put setters =>
    rw [Value.itemDocs, Items.fill]
    exact short_eq n c

/-- Nothing may follow the last item of an array. -/
theorem fill_full {n : Nat} {c : ShaderCode} {v : Value} {items : List Value} :
    (Value.itemDocs (v :: items)).fill record.short n c [] = .error .trailingCharacters := by
  rw [Value.itemDocs, Items.fill]

/-- An array is read as shader code exactly if it describes it. -/
theorem fill_iff {items : List Value} {c : ShaderCode} :
    (Value.itemDocs items).fill record.short 0 record.blank (record.fields.map RecordField.put) =
        .ok c ↔ Described (.seq items) c := by
  obtain ⟨vertex, fragment, combined⟩ := c
  have hfields : record.fields.map RecordField.put =
      [.of (Doc.readOptional Doc.readText) fun t c => { c with vertex := t },
        .of (Doc.readOptional Doc.readText) fun t c => { c with fragment := t },
        .of (Doc.readOptional Doc.readText) fun t c => { c with combined := t }] := rfl
  have hblank : record.blank = {} := rfl
  rw [described_seq, hfields, hblank]
  rcases items with _ | ⟨a, _ | ⟨b, _ | ⟨d, _ | ⟨e, items⟩⟩⟩⟩
  · simp [fill_nil, eq_comm]
  · simp only [reader_text.fill_iff, fill_nil, Except.ok.injEq, mk.injEq]
    constructor
    · rintro ⟨_, ha, rfl, rfl, rfl⟩
      exact ⟨by simp, ha, .leftOut, .leftOut⟩
    · rintro ⟨-, ha, hfragment, hcombined⟩
      exact ⟨_, ha, rfl, (given_nil.mp hfragment).symm, (given_nil.mp hcombined).symm⟩
  · simp only [reader_text.fill_iff, fill_nil, Except.ok.injEq, mk.injEq]
    constructor
    · rintro ⟨_, ha, _, hb, rfl, rfl, rfl⟩
      exact ⟨by simp, ha, hb, .leftOut⟩
    · rintro ⟨-, ha, hb, hcombined⟩
      exact ⟨_, ha, _, hb, rfl, rfl, (given_nil.mp hcombined).symm⟩
  · simp only [reader_text.fill_iff, fill_nil, Except.ok.injEq, mk.injEq]
    constructor
    · rintro ⟨_, ha, _, hb, _, hd, rfl, rfl, rfl⟩
      exact ⟨by simp, ha, hb, hd⟩
    · rintro ⟨-, ha, hb, hd⟩
      exact ⟨_, ha, _, hb, _, hd, rfl, rfl, rfl⟩
  · simp [reader_text.fill_iff, fill_full]

/-- **Shader code is read exactly from the values that describe it.** -/
theorem reader : Reader record.read Described where
  read_iff v c := by
    cases v with
    | map members => exact readMembers_iff
    | seq items => exact fill_iff
    | _ =>
      constructor
      · intro h
        cases h
      · intro h
        cases h
  not_null c := by
    rintro ⟨⟩

end ShaderCode

/-! ## Answers -/

namespace Answer

/-- An object that is some answer. -/
structure Described (members : List (String × Value)) (a : Answer) : Prop where
  success : valuesOf members "success" = [.bool a.success]
  code : Given ShaderCode.Described (valuesOf members "data") a.code
  reason : Given Value.IsText (valuesOf members "error") a.reason
  raw : Given Value.IsText (valuesOf members "rawOutput") a.raw

/-- An object is one answer at most. -/
theorem Described.unique {members : List (String × Value)} {a a' : Answer}
    (h : Described members a) (h' : Described members a') : a = a' := by
  have hsuccess : a.success = a'.success := by simpa using h.success.symm.trans h'.success
  obtain ⟨_, _, _, _⟩ := a
  obtain ⟨_, _, _, _⟩ := a'
  rw [mk.injEq]
  exact ⟨hsuccess, ShaderCode.reader.given_unique h.code h'.code,
    reader_text.given_unique h.reason h'.reason, reader_text.given_unique h.raw h'.raw⟩

theorem record_plain : record.Plain where
  field? := by simp [record, Record.field?]
  steady := by simp [record, Setter.steady_of]

theorem part_success : record.Part "success" success Doc.readBool where
  sets := ⟨_, rfl, Setter.sets_of fun _ _ => rfl⟩
  keeps := by simp [record, Setter.keeps_of]

theorem part_code : record.Part "data" code (Doc.readOptional ShaderCode.record.read) where
  sets := ⟨_, rfl, Setter.sets_of fun _ _ => rfl⟩
  keeps := by simp [record, Setter.keeps_of]

theorem part_reason : record.Part "error" reason (Doc.readOptional Doc.readText) where
  sets := ⟨_, rfl, Setter.sets_of fun _ _ => rfl⟩
  keeps := by simp [record, Setter.keeps_of]

theorem part_raw : record.Part "rawOutput" raw (Doc.readOptional Doc.readText) where
  sets := ⟨_, rfl, Setter.sets_of fun _ _ => rfl⟩
  keeps := by simp [record, Setter.keeps_of]

/-- **An answer is read exactly from the objects that describe it.** -/
theorem readMembers_iff {members : List (String × Value)} {a : Answer} :
    record.readMembers [] record.blank (Value.memberDocs members) = .ok a ↔
      Described members a := by
  have accepted :
      (∃ a, record.readMembers [] record.blank (Value.memberDocs members) = .ok a) ↔
        (∃ b, valuesOf members "success" = [.bool b]) ∧
          (∃ c, Given ShaderCode.Described (valuesOf members "data") c) ∧
            (∃ t, Given Value.IsText (valuesOf members "error") t) ∧
              ∃ t, Given Value.IsText (valuesOf members "rawOutput") t := by
    rw [Record.readMembers_iff record_plain]
    simp only [record, List.forall_mem_cons, List.not_mem_nil, false_implies, implies_true,
      and_true]
    have hsuccess : (∃ v b, valuesOf members "success" = [v] ∧ v.doc.readBool = .ok b) ↔
        ∃ b, valuesOf members "success" = [.bool b] := by
      simp only [readBool_iff]
      exact ⟨fun ⟨_, b, hv, hb⟩ => ⟨b, hb ▸ hv⟩, fun ⟨b, hv⟩ => ⟨_, b, hv, rfl⟩⟩
    exact and_congr (RecordField.admits_required.trans hsuccess)
      (and_congr ShaderCode.reader.admits_iff
        (and_congr reader_text.admits_iff reader_text.admits_iff))
  have described {a : Answer}
      (hr : record.readMembers [] record.blank (Value.memberDocs members) = .ok a) :
      Described members a := by
    refine ⟨?_, ShaderCode.reader.given part_code rfl hr, reader_text.given part_reason rfl hr,
      reader_text.given part_raw rfl hr⟩
    obtain ⟨⟨b, hb⟩, -⟩ := accepted.mp ⟨a, hr⟩
    rcases part_success.value List.not_mem_nil hr with ⟨hnil, -⟩ | ⟨v, hv, hread⟩
    · simp [hb] at hnil
    · rw [hv, readBool_iff.mp hread]
  refine ⟨described, fun h => ?_⟩
  obtain ⟨a', hr⟩ := accepted.mpr ⟨⟨_, h.success⟩, ⟨_, h.code⟩, ⟨_, h.reason⟩, ⟨_, h.raw⟩⟩
  rw [hr, (described hr).unique h]

/-- **What a text of an object is decoded to.** It is decoded to the answer that its members
describe, whatever their order, the members besides and the spelling; if they describe none, the
service has failed. -/
theorem decode_object (members : List (String × Value)) (body : String)
    (h : (Value.map members).Written body.toList) :
    (∀ a, decode body = .ok a ↔ Described members a) ∧
      ((¬ ∃ a, Described members a) → ∃ p : Problem, decode body =
        .error (.service ("Invalid response from shader service: " ++ p.message))) := by
  have hparse : parse body = record.readMembers [] record.blank (Value.memberDocs members) :=
    readAll_of_tokens h.ofTokens
  refine ⟨fun a => ?_, fun hnone => ?_⟩
  · rw [decode_eq_ok, hparse, readMembers_iff]
  · cases hr : record.readMembers [] record.blank (Value.memberDocs members) with
    | ok a => exact absurd ⟨a, readMembers_iff.mp hr⟩ hnone
    | error p => exact ⟨p, decode_of_error (hparse.trans hr)⟩

/-- An odd spelling of `success`, besides a member that nobody knows and besides itself. -/
theorem decode_object_spelled :
    decode "\x7b\"s\\u0075ccess\": true,\"x\":[null]\x7d" = .ok { success := true } ∧
      ∃ p : Problem, decode "\x7b\"s\\u0075ccess\": true,\"success\":true\x7d" =
        .error (.service ("Invalid response from shader service: " ++ p.message)) := by
  have none : Blanks [] := by simp [Blanks]
  have blank : Blanks [' '] := by simp [Blanks]
  have digit (n : Nat) (h : n < 16) : Quotation.IsDigit (Text.hexDigit n) n := ⟨h, .inl rfl⟩
  have hs : Quotation.CharWritten 's' ['s'] := .plain (by decide) (by decide) (by decide)
  have hu : Quotation.CharWritten 'u' ['\\', 'u', '0', '0', '7', '5'] :=
    .unit (by decide) (.digits (digit 0 (by decide)) (digit 0 (by decide)) (digit 7 (by decide))
      (digit 5 (by decide)))
  have hspelled : Quotation.CharsWritten "success".toList "s\\u0075ccess".toList :=
    .cons hs (.cons hu (.plain (t := ['c', 'c', 'e', 's', 's']) (by simp)))
  have hplain : Quotation.CharsWritten "success".toList "success".toList := .plain (by simp)
  have hx : Quotation.CharsWritten "x".toList "x".toList := .plain (by simp)
  have known : (Value.map [("success", .bool true), ("x", .seq [.null])]).Written
      "\x7b\"s\\u0075ccess\": true,\"x\":[null]\x7d".toList :=
    .padded none (.map (.cons (.padded none (.quoted hspelled) none) (.padded blank .yes none)
      (.last (.padded none (.quoted hx) none)
        (.padded none (.seq (.last (.padded none .null none))) none)))) none
  have twice : (Value.map [("success", .bool true), ("success", .bool true)]).Written
      "\x7b\"s\\u0075ccess\": true,\"success\":true\x7d".toList :=
    .padded none (.map (.cons (.padded none (.quoted hspelled) none) (.padded blank .yes none)
      (.last (.padded none (.quoted hplain) none) (.padded none .yes none)))) none
  refine ⟨((decode_object _ _ known).1 _).mpr ⟨by simp [valuesOf], .leftOut, .leftOut, .leftOut⟩,
    (decode_object _ _ twice).2 ?_⟩
  rintro ⟨a, ha⟩
  simpa [valuesOf] using ha.success

end Answer

end LiveShader
