import LiveShader.Proofs.Remnant
import LiveShader.Proofs.RoundTrip

/-!
# Answers that break off

A reader that accepts a tree gets, in what is left of it, as far as the cut and reports what it
finds there. This carries over from scalars to optional values and to records, because a record
reads its members in the order in which they came, and those before the cut are as they were.

* `Faithful` says of a reader that it reports every cut in a tree that it accepts.

Results:
* `Doc.Cut.skip`: skipping reports every cut.
* `Record.read_faithful`: a record reports every cut if its fields do.
* `Answer.decode_truncated`: an answer that breaks off on the wire is never taken for another one.
-/

namespace LiveShader

namespace Json

/-! ## Readers -/

/-- Something was read in vain because the text was cut off. -/
def CutOff {α : Type} (reading : Except Problem α) : Prop :=
  ∃ p, reading = .error p ∧ p.category = .cutOff

/-- A reader that accepts a tree reports every cut in it. -/
structure Faithful {α : Type} (read : Doc → Except Problem α) : Prop where
  /-- Where nothing is left, it says so whatever would be accepted there. -/
  gone : ∀ f : Fault, f.CutOff → CutOff (read (.missing f))
  cut : ∀ {d' d a}, d'.Cut d → read d = .ok a → CutOff (read d')

theorem MapStop.CutOff.strict {s : MapStop} (h : s.CutOff) : Json.CutOff (outcome s.strict) := by
  cases h with
  | between => exact ⟨_, rfl, rfl⟩
  | afterComma => exact ⟨_, rfl, rfl⟩
  | withinKey h => exact ⟨_, rfl, h.1⟩

theorem CutOff.bind {α β : Type} {reading : Except Problem α} (h : CutOff reading)
    (f : α → Except Problem β) : CutOff (reading.bind f) := by
  obtain ⟨p, rfl, hp⟩ := h
  exact ⟨p, rfl, hp⟩

theorem CutOff.map {α β : Type} {reading : Except Problem α} (h : CutOff reading) (f : α → β) :
    CutOff (reading.map f) := by
  obtain ⟨p, rfl, hp⟩ := h
  exact ⟨p, rfl, hp⟩

theorem readBool_faithful : Faithful Doc.readBool where
  gone _ h := ⟨_, rfl, h.1⟩
  cut hcut hread := by
    cases hcut with
    | gone h => exact ⟨_, rfl, h.1⟩
    | seq _ => cases hread
    | map _ => cases hread

theorem readText_faithful : Faithful Doc.readText where
  gone _ h := ⟨_, rfl, h.1⟩
  cut hcut hread := by
    cases hcut with
    | gone h => exact ⟨_, rfl, h.1⟩
    | seq _ => cases hread
    | map _ => cases hread

theorem readOptional_faithful {α : Type} {read : Doc → Except Problem α} (h : Faithful read) :
    Faithful (Doc.readOptional read) where
  gone f hf := (h.gone f hf).map some
  cut hcut hread := by
    cases hcut with
    | gone hf => exact (h.gone _ hf).map some
    | seq hitems =>
      obtain ⟨a, ha, -⟩ := map_eq_ok.mp hread
      exact (h.cut (.seq hitems) ha).map some
    | map hmembers =>
      obtain ⟨a, ha, -⟩ := map_eq_ok.mp hread
      exact (h.cut (.map hmembers) ha).map some

mutual

/-- Skipping reports every cut. -/
theorem Doc.Cut.skip : {d' d : Doc} → d'.Cut d → d.skip = .ok () → CutOff d'.skip
  | _, _, .gone h, _ => ⟨_, rfl, h.2⟩
  | _, _, .seq h, hd => h.skip hd
  | _, _, .map h, hd => h.skip hd

theorem Items.Cut.skip : {items' items : Items} → items'.Cut items → items.skip = .ok () →
    CutOff items'.skip
  | _, _, .here, _ => ⟨_, rfl, rfl⟩
  | _, _, .within h, hskip => by
    obtain ⟨⟨⟩, hd, -⟩ := bind_eq_ok.mp hskip
    exact (h.skip hd).bind _
  | _, _, .later h, hskip => by
    obtain ⟨⟨⟩, hd, hrest⟩ := bind_eq_ok.mp hskip
    rw [Items.skip, hd]
    exact h.skip hrest

theorem Members.Cut.skip : {members' members : Members} → members'.Cut members →
    members.skip = .ok () → CutOff members'.skip
  | _, _, .here .between, _ => ⟨_, rfl, rfl⟩
  | _, _, .here .afterComma, _ => ⟨_, rfl, rfl⟩
  | _, _, .here (.withinKey h), _ => ⟨_, rfl, h.2⟩
  | _, _, .within h, hskip => by
    obtain ⟨⟨⟩, hd, -⟩ := bind_eq_ok.mp hskip
    exact (h.skip hd).bind _
  | _, _, .later h, hskip => by
    obtain ⟨⟨⟩, hd, hrest⟩ := bind_eq_ok.mp hskip
    rw [Members.skip, hd]
    exact h.skip hrest

end

/-! ### Records -/

variable {R : Type}

/-- The field of a record reports every cut. -/
def Setter.Faithful (put : Setter R) : Prop :=
  ∀ r, Json.Faithful (put r)

theorem Setter.faithful_of {α : Type} {read : Doc → Except Problem α} {store : α → R → R}
    (h : Json.Faithful read) : (Setter.of read store).Faithful := by
  refine fun r => ⟨fun f hf => (h.gone f hf).map _, fun hcut hput => ?_⟩
  obtain ⟨a, ha, -⟩ := map_eq_ok.mp hput
  exact (h.cut hcut ha).map _

namespace Record

variable {rec : Record R}

/-- Members that were cut off are read as far as they go. -/
theorem readMembers_cut (hfields : ∀ f ∈ rec.fields, f.put.Faithful) :
    {members' members : Members} → members'.Cut members → {seen : List String} → {r r' : R} →
    rec.readMembers seen r members = .ok r' → CutOff (rec.readMembers seen r members')
  | _, _, .here h, _, _, _, _ => h.strict.bind _
  | _, _, .within h, _, _, _, hr => by
    obtain ⟨name, rfl, ⟨hf, hskip, -⟩ | ⟨f, r₁, hf, hs, hput, -⟩⟩ := readMembers_member hr
    · rw [readMembers_skip hf]
      exact (h.skip hskip).bind _
    · rw [readMembers_field hf hs]
      exact ((hfields f (List.mem_of_find?_eq_some hf) _).cut h hput).bind _
  | _, _, .later h, _, _, _, hr => by
    obtain ⟨name, rfl, ⟨hf, hskip, hrest⟩ | ⟨f, r₁, hf, hs, hput, hrest⟩⟩ := readMembers_member hr
    · rw [readMembers_skip hf, hskip]
      exact readMembers_cut hfields h hrest
    · rw [readMembers_field hf hs, hput]
      exact readMembers_cut hfields h hrest

/-- Items that were cut off are read as far as they go. -/
theorem fill_cut {short : Nat → R → Except Problem R} : {items' items : Items} →
    items'.Cut items → {setters : List (Setter R)} → (∀ put ∈ setters, put.Faithful) →
    {n : Nat} → {r r' : R} → items.fill short n r setters = .ok r' →
    CutOff (items'.fill short n r setters)
  | _, _, .here, setters, _, _, _, _, _ => by
    cases setters with
    | nil => exact ⟨_, rfl, rfl⟩
    | cons put setters => exact ⟨_, rfl, rfl⟩
  | _, _, .within h, setters, hsetters, _, _, _, hr => by
    cases setters with
    | nil => cases hr
    | cons put setters =>
      obtain ⟨r₁, hput, -⟩ := bind_eq_ok.mp hr
      exact ((hsetters put (List.mem_cons_self ..) _).cut h hput).bind _
  | _, _, .later h, setters, hsetters, _, _, _, hr => by
    cases setters with
    | nil => cases hr
    | cons put setters =>
      obtain ⟨r₁, hput, hrest⟩ := bind_eq_ok.mp hr
      rw [Items.fill, hput]
      exact fill_cut h (fun put hmem => hsetters put (List.mem_cons_of_mem _ hmem)) hrest

/-- **A record reports every cut** if its fields do. -/
theorem read_faithful (hfields : ∀ f ∈ rec.fields, f.put.Faithful) : Faithful rec.read where
  gone _ h := ⟨_, rfl, h.1⟩
  cut hcut hread := by
    cases hcut with
    | gone h => exact ⟨_, rfl, h.1⟩
    | seq h => exact fill_cut h (by simpa using hfields) hread
    | map h => exact readMembers_cut hfields h hread

end Record

/-- The messages of a text that was cut off. -/
theorem Problem.message_of_cutOff {p : Problem} (h : p.category = .cutOff) :
    "EOF".toList <+: p.message.toList := by
  cases p with
  | valueCutOff | seqCutOff | mapCutOff | textCutOff => decide
  | _ => cases h

end Json

open Json

/-! ## Answers -/

theorem ShaderCode.read_faithful : Faithful ShaderCode.record.read := by
  refine Record.read_faithful ?_
  simp only [record, List.forall_mem_cons, List.not_mem_nil, false_implies, implies_true, and_true]
  have htext {store : Option String → ShaderCode → ShaderCode} :
      (Setter.of (Doc.readOptional Doc.readText) store).Faithful :=
    Setter.faithful_of (readOptional_faithful readText_faithful)
  exact ⟨htext, htext, htext⟩

theorem Answer.read_faithful : Faithful Answer.record.read := by
  refine Record.read_faithful ?_
  simp only [record, List.forall_mem_cons, List.not_mem_nil, false_implies, implies_true, and_true]
  have htext {store : Option String → Answer → Answer} :
      (Setter.of (Doc.readOptional Doc.readText) store).Faithful :=
    Setter.faithful_of (readOptional_faithful readText_faithful)
  exact ⟨Setter.faithful_of readBool_faithful,
    Setter.faithful_of (readOptional_faithful ShaderCode.read_faithful), htext, htext⟩

/-- **An answer that breaks off on the wire is never taken for another one**: wherever the text
ends too early, decoding it fails and says that it was cut off. -/
theorem Answer.decode_truncated (a : Answer) (body : String)
    (hstart : body.toList <+: a.encode.toList) (hproper : body ≠ a.encode) :
    ∃ p : Problem, Answer.decode body =
        .error (.service ("Invalid response from shader service: " ++ p.message)) ∧
      "EOF".toList <+: p.message.toList := by
  have hshort : Short body.toList a.toValue.render := by
    obtain ⟨rest, hrest⟩ := hstart
    rw [encode, String.toList_ofList] at hrest
    refine ⟨rest, ?_, hrest⟩
    rintro rfl
    rw [List.append_nil] at hrest
    exact hproper (by rw [encode, ← hrest, String.ofList_toList])
  have hcut := Value.cut_ofTokens a.isWordy_toValue hshort
  obtain ⟨p, hread, hp⟩ := Answer.read_faithful.cut hcut a.read_toValue
  have hparse : Answer.parse body = .error p := by
    rw [parse, readAll]
    simp only [hread, Except.bind]
  exact ⟨p, decode_of_error hparse, Problem.message_of_cutOff hp⟩

/-- An answer that breaks off within an escape. -/
theorem Answer.decode_truncated_escape :
    ∃ p : Problem, Answer.decode "\x7b\"success\":false,\"error\":\"\\" =
        .error (.service ("Invalid response from shader service: " ++ p.message)) ∧
      "EOF".toList <+: p.message.toList :=
  Answer.decode_truncated { reason := some "\n" } _ ⟨['n', '"', '\x7d'], by decide⟩ (by decide)

end LiveShader
