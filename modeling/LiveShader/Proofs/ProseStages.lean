import LiveShader.Proofs.Fences
import LiveShader.Proofs.RoundTrip

/-!
# Where the stages of a prose answer come from

The answer for a model's free-form text goes over the wire before its code is rendered, and what is
missing in the code is filled in. In the end each stage is the body of a block of the text or the
built-in stage.

* Every block that counts is offered to one field (`Fence.Traced`), so no two fields have their text
  from the same block, and the fragment stage may take a combined snippet without a clash.
* A block with a body leaves a text in some field, and later blocks leave it there.

Results:
* `Fence.Traced.assign`: one more block is traced.
* `Fence.isEmpty_foldl_assign`: nothing is found exactly if no block has a body.
* `Answer.ofProse_stages`: what a model's text ends up as.
-/

namespace LiveShader

namespace Fence

/-! ## Fields -/

/-- The text of a field. -/
def textOf (found : ShaderCode) : Slot → Option String
  | .vertex => found.vertex
  | .fragment => found.fragment
  | .combined => found.combined

/-- Code is what its fields hold. -/
theorem eq_of_textOf {c c' : ShaderCode} (h : ∀ slot, textOf c slot = textOf c' slot) : c = c' := by
  obtain ⟨vertex, fragment, combined⟩ := c
  obtain ⟨vertex', fragment', combined'⟩ := c'
  rw [ShaderCode.mk.injEq]
  exact ⟨h .vertex, h .fragment, h .combined⟩

theorem textOf_fill (found : ShaderCode) (body : String) (slot slot' : Slot) :
    textOf (fill found body slot') slot =
      if slot = slot' then (textOf found slot).or (some body) else textOf found slot := by
  cases slot <;> cases slot' <;> rfl

theorem isEmpty_fill (found : ShaderCode) (body : String) (slot : Slot) :
    (fill found body slot).isEmpty = false := by
  cases slot <;> simp [fill, ShaderCode.isEmpty]

theorem isEmpty_settle (found : ShaderCode) : (settle found).isEmpty = found.isEmpty := by
  rw [settle]
  split
  · next h =>
    rw [Bool.and_eq_true, Option.isSome_iff_exists] at h
    obtain ⟨⟨t, ht⟩, -⟩ := h
    simp [ShaderCode.isEmpty, ht]
  · rfl

/-- Settling may drop a text and adds none. -/
theorem textOf_of_settle {found : ShaderCode} {slot : Slot} {t : String}
    (h : textOf (settle found) slot = some t) : textOf found slot = some t := by
  rw [settle] at h
  split at h
  · cases slot with
    | combined => cases h
    | _ => exact h
  · exact h

/-! ## Block by block -/

variable {bs : List Block} {offered : Nat → Slot} {found : ShaderCode} {b : Block}

/-- Every text is the body of a block, one that was offered to the text's field. -/
def Traced (bs : List Block) (offered : Nat → Slot) (found : ShaderCode) : Prop :=
  ∀ slot t, textOf found slot = some t →
    ∃ k b, bs[k]? = some b ∧ b.body ≠ [] ∧ t = String.ofList b.body ∧ offered k = slot

theorem traced_nil : Traced [] offered {} := by
  rintro (_ | _ | _) t h <;> cases h

/-- **One more block** is traced. It is offered to one field, and the blocks before it to the fields
that they were offered to. -/
theorem Traced.assign (h : Traced bs offered found) (hints : Hints) (b : Block) :
    ∃ offered', Traced (bs ++ [b]) offered' (assign hints found b) := by
  have before {k : Nat} {b' : Block} (hk : bs[k]? = some b') :
      (bs ++ [b])[k]? = some b' ∧ k ≠ bs.length := by
    have hlt := (List.getElem?_eq_some_iff.mp hk).1
    exact ⟨by rw [List.getElem?_append_left hlt, hk], by omega⟩
  by_cases hb : b.body = []
  · refine ⟨offered, fun slot t ht => ?_⟩
    rw [Fence.assign, if_pos (by simp [hb])] at ht
    obtain ⟨k, b', hk, hrest⟩ := h slot t ht
    exact ⟨k, b', (before hk).1, hrest⟩
  · let slot' := slotFor hints found b.label
    refine ⟨fun k => if k = bs.length then slot' else offered k, fun slot t ht => ?_⟩
    rw [Fence.assign, if_neg (by simp [hb]), textOf_fill] at ht
    have old (ht : textOf found slot = some t) : ∃ k b', (bs ++ [b])[k]? = some b' ∧ b'.body ≠ [] ∧
        t = String.ofList b'.body ∧ (if k = bs.length then slot' else offered k) = slot := by
      obtain ⟨k, b', hk, hbody, htext, hslot⟩ := h slot t ht
      obtain ⟨hk', hne⟩ := before hk
      exact ⟨k, b', hk', hbody, htext, by rw [if_neg hne, hslot]⟩
    split at ht
    · next hslot =>
      cases hfound : textOf found slot with
      | some t' =>
        rw [hfound, Option.some_or] at ht
        exact old (hfound.trans ht)
      | none =>
        rw [hfound, Option.none_or, Option.some_inj] at ht
        exact ⟨bs.length, b, by simp, hb, ht.symm, (if_pos rfl).trans hslot.symm⟩
    · exact old ht

/-- All blocks are traced. -/
theorem exists_traced (hints : Hints) (bs : List Block) :
    ∃ offered, Traced bs offered (bs.foldl (assign hints) {}) := by
  have run (rest : List Block) : ∀ bs found offered, Traced bs offered found →
      ∃ offered', Traced (bs ++ rest) offered' (rest.foldl (assign hints) found) := by
    induction rest with
    | nil => exact fun bs found offered h => ⟨offered, by rwa [List.append_nil]⟩
    | cons b rest ih =>
      intro bs found offered h
      obtain ⟨offered', h'⟩ := h.assign hints b
      obtain ⟨offered'', h''⟩ := ih _ _ _ h'
      exact ⟨offered'', by rwa [List.append_assoc] at h''⟩
  exact run bs [] {} (fun _ => .vertex) traced_nil

theorem isEmpty_assign (hints : Hints) (found : ShaderCode) (b : Block) :
    (assign hints found b).isEmpty = (found.isEmpty && b.body.isEmpty) := by
  rw [assign]
  cases b.body.isEmpty with
  | true => simp
  | false => simp [isEmpty_fill]

/-- **Nothing is found** exactly if no block has a body. -/
theorem isEmpty_foldl_assign (hints : Hints) (bs : List Block) (found : ShaderCode) :
    (bs.foldl (assign hints) found).isEmpty =
      (found.isEmpty && bs.all fun b => b.body.isEmpty) := by
  induction bs generalizing found with
  | nil => simp
  | cons b bs ih => rw [List.foldl_cons, ih, isEmpty_assign, List.all_cons, Bool.and_assoc]

/-- The code of a text is traced to the blocks of the text. -/
theorem exists_traced_ofProse (text : String) :
    ∃ offered, Traced (blocks text.toList) offered (ShaderCode.ofProse text) := by
  obtain ⟨offered, h⟩ := exists_traced (Hints.ofText text.toList) (blocks text.toList)
  exact ⟨offered, fun slot t ht => h slot t (textOf_of_settle ht)⟩

/-- A text carries no code exactly if none of its blocks has a body. -/
theorem isEmpty_ofProse (text : String) : (ShaderCode.ofProse text).isEmpty = true ↔
    ∀ k b, IsBlock text.toList k b → b.body = [] := by
  rw [ShaderCode.ofProse, isEmpty_settle, isEmpty_foldl_assign]
  simp only [ShaderCode.isEmpty, Option.isNone_none, Bool.and_self, Bool.true_and,
    List.all_eq_true, List.isEmpty_iff, ← blocks_getElem?]
  constructor
  · exact fun h k b hk => h b (List.mem_of_getElem? hk)
  · intro h b hb
    obtain ⟨k, hk⟩ := List.getElem?_of_mem hb
    exact h k b hk

/-! ## Stages -/

/-- What a stage is: the body of a block, with its number, or the built-in stage. -/
inductive Origin (text : List Char) (builtin : String) : Option Nat → String → Prop where
  | builtin : Origin text builtin none builtin
  | block {k : Nat} {b : Block} (h : IsBlock text k b) :
      Origin text builtin (some k) (String.ofList b.body)

/-- A stage is taken from the fields with `P`, or built in. -/
theorem Traced.stage {text : List Char} (h : Traced (blocks text) offered found)
    {P : Slot → Prop} {o : Option String}
    (ho : ∀ t, o = some t → ∃ slot, P slot ∧ textOf found slot = some t) (builtin : String)
    (hbuiltin : builtin ≠ "") :
    ∃ i, Origin text builtin i (o.getD builtin) ∧ o.getD builtin ≠ "" ∧ (o ≠ none → i ≠ none) ∧
      ∀ k, i = some k → P (offered k) := by
  cases o with
  | none => exact ⟨none, .builtin, hbuiltin, fun h => absurd rfl h, fun _ => nofun⟩
  | some t =>
    obtain ⟨slot, hslot, ht⟩ := ho t rfl
    obtain ⟨k, b, hk, hbody, rfl, rfl⟩ := h slot t ht
    refine ⟨some k, .block ((blocks_getElem? ..).mp hk), by simpa using hbody, fun _ => nofun, ?_⟩
    rintro _ ⟨⟩
    exact hslot

end Fence

open Fence

namespace ShaderCode

theorem supplied_eq {o : Option String} (h : ∀ t, o = some t → t ≠ "") : supplied o = o := by
  cases o with
  | none => rfl
  | some t => simp [supplied, Option.filter, h t rfl]

end ShaderCode

/-- The stages come from the blocks `i` and `j` of a text, or are built in. -/
structure Stages.FromBlocks (s : Stages) (text : List Char) (i j : Option Nat) : Prop where
  vertex : Origin text Builtin.vertexText i s.vertex
  fragment : Origin text Builtin.fragmentText j s.fragment
  any : i ≠ none ∨ j ≠ none
  apart : ∀ k, i = some k → j ≠ some k
  vertex_ne : s.vertex ≠ ""
  fragment_ne : s.fragment ≠ ""
  readsCamera : s.readsCamera = true ↔
    ∃ before after, s.vertex.toList = before ++ Builtin.cameraUniform.toList ++ after

/-- The code of a text, filled up to two stages. -/
theorem ShaderCode.stages_ofProse {text : String} (h : (ShaderCode.ofProse text).isEmpty = false) :
    ∃ i j, (ShaderCode.ofProse text).stages.FromBlocks text.toList i j := by
  obtain ⟨offered, htraced⟩ := exists_traced_ofProse text
  generalize ShaderCode.ofProse text = c at h htraced
  have hsupplied (slot : Slot) : supplied (textOf c slot) = textOf c slot := by
    refine supplied_eq fun t ht => ?_
    obtain ⟨k, b, -, hbody, rfl, -⟩ := htraced slot t ht
    simpa using hbody
  have hv : supplied c.vertex = c.vertex := hsupplied .vertex
  have hf : supplied c.fragment = c.fragment := hsupplied .fragment
  have hc : supplied c.combined = c.combined := hsupplied .combined
  have hvertex : c.vertexText = c.vertex.getD Builtin.vertexText := by rw [vertexText, hv]
  have hfragment : c.fragmentText = (c.fragment.or c.combined).getD Builtin.fragmentText := by
    rw [fragmentText, hf, hc]
  have hchoice (t : String) (ht : c.fragment.or c.combined = some t) :
      ∃ slot, slot ≠ .vertex ∧ textOf c slot = some t := by
    rcases Option.or_eq_some_iff.mp ht with hf | ⟨-, hc⟩
    · exact ⟨.fragment, nofun, hf⟩
    · exact ⟨.combined, nofun, hc⟩
  obtain ⟨i, hi, hine, hisome, hislot⟩ := htraced.stage (P := (· = .vertex)) (o := c.vertex)
    (fun t ht => ⟨.vertex, rfl, ht⟩) Builtin.vertexText (by decide)
  obtain ⟨j, hj, hjne, hjsome, hjslot⟩ := htraced.stage (P := (· ≠ .vertex)) hchoice
    Builtin.fragmentText (by decide)
  rw [← hvertex] at hi hine
  rw [← hfragment] at hj hjne
  refine ⟨i, j, hi, hj, ?_, ?_, hine, hjne, Text.occursIn_iff⟩
  · cases hvertexNone : c.vertex with
    | some t => exact .inl (hisome (by simp [hvertexNone]))
    | none =>
      refine .inr (hjsome fun hnone => ?_)
      rw [Option.or_eq_none_iff] at hnone
      simp [isEmpty, hvertexNone, hnone] at h
  · rintro k rfl hk
    exact hjslot k hk (hislot k rfl)

/-! ## Answers -/

namespace Answer

theorem parse_encode (a : Answer) : parse a.encode = .ok a := by
  have htokens : Json.Doc.ofTokens (Json.tokens a.encode.toList) = (a.toValue.doc, []) := by
    rw [encode, String.toList_ofList, a.toValue.ofTokens_render a.isWordy_toValue]
  exact (Json.readAll_of_tokens htokens).trans a.read_toValue

/-- **What a model's text ends up as**, after the answer for it went over the wire: a failure of the
service if no block of the text has a body, and else two stages from its blocks. -/
theorem ofProse_stages (text : String) :
    ∃ a, decode (ofProse text).encode = .ok a ∧
      ((∀ k b, IsBlock text.toList k b → b.body = []) →
        ∃ why, a.codeToRender = .error (.service why)) ∧
      ((∃ k b, IsBlock text.toList k b ∧ b.body ≠ []) →
        ∃ code, a.codeToRender = .ok code ∧
          ∃ i j, code.stages.FromBlocks text.toList i j) := by
  refine ⟨ofProse text, decode_eq_ok.mpr (parse_encode _), fun hnone => ?_, ?_⟩
  · have hempty := (isEmpty_ofProse text).mpr hnone
    exact ⟨"Could not extract valid shader code from the response", by
      simp [ofProse, hempty, codeToRender]⟩
  · rintro ⟨k, b, hblock, hbody⟩
    have hempty : (ShaderCode.ofProse text).isEmpty = false := by
      rw [Bool.eq_false_iff, Ne, isEmpty_ofProse]
      exact fun hnone => hbody (hnone k b hblock)
    exact ⟨ShaderCode.ofProse text, by simp [ofProse, hempty, codeToRender],
      ShaderCode.stages_ofProse hempty⟩

end Answer

end LiveShader
