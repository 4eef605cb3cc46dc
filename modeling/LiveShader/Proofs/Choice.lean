import LiveShader.Proofs.ProseStages
import Mathlib.Data.List.Find
import Mathlib.Data.List.Induction

/-!
# Which block is chosen for which text

The blocks of a text are offered to the three fields one after the other, and where a block goes
depends on what the blocks before it have filled. In the end, though, each field has the first block
that meets a condition on its label and its place alone.

* `firstPlace` is the first place of a list with a property.
* `Choice.ofLabels` says by labels and hints which block goes where. The vertex stage is chosen
  without regard to the others, the fragment stage looks at the vertex stage, and the combined
  snippet is what both have left over.
* One block more is chosen exactly for the field that it is offered to, if that is still free.

Results:
* `Fence.firstFor_snoc`: the choice among one block more.
* `Fence.textOf_foldl_assign`: the fold fills each field with the block that is chosen for it.
* `ofProse_first`: the code of a text, field by field.
-/

namespace LiveShader

namespace Fence

open LiveShader.Text

/-! ## The first place with a property -/

section FirstPlace

variable {α β : Type} {p q : Nat → α → Bool} {l : List α} {k : Nat}

/-- The first place of a list where `p` holds of the place and of what stands there. -/
def firstPlace (p : Nat → α → Bool) (l : List α) : Option Nat :=
  (List.range l.length).find? fun k => l[k]?.any (p k)

theorem firstPlace_eq_some : firstPlace p l = some k ↔
    (∃ a, l[k]? = some a ∧ p k a = true) ∧ ∀ j < k, ∀ a, l[j]? = some a → p j a = false := by
  rw [firstPlace, List.find?_range_eq_some]
  simp only [Option.any_eq_true, List.mem_range, Bool.not_eq_true', Option.any_eq_false]
  constructor
  · rintro ⟨hk, -, hbefore⟩
    exact ⟨hk, hbefore⟩
  · rintro ⟨hk, hbefore⟩
    obtain ⟨a, ha, -⟩ := id hk
    exact ⟨hk, (List.getElem?_eq_some_iff.mp ha).1, hbefore⟩

theorem firstPlace_eq_none :
    firstPlace p l = none ↔ ∀ k a, l[k]? = some a → p k a = false := by
  rw [firstPlace, List.find?_range_eq_none]
  simp only [Bool.not_eq_true', Option.any_eq_false]
  constructor
  · intro h k a ha
    exact h k (List.getElem?_eq_some_iff.mp ha).1 a ha
  · exact fun h k _ => h k

theorem firstPlace_lt (h : firstPlace p l = some k) : k < l.length := by
  obtain ⟨⟨a, ha, -⟩, -⟩ := firstPlace_eq_some.mp h
  exact (List.getElem?_eq_some_iff.mp ha).1

/-- What a property says of places behind the list does not matter. -/
theorem firstPlace_congr (h : ∀ k a, l[k]? = some a → p k a = q k a) :
    firstPlace p l = firstPlace q l := by
  refine List.find?_congr fun k hk => ?_
  rw [List.getElem?_eq_getElem (List.mem_range.mp hk), Option.any_some, Option.any_some]
  exact h k _ (List.getElem?_eq_getElem (List.mem_range.mp hk))

theorem firstPlace_snoc (p : Nat → α → Bool) (l : List α) (a : α) :
    firstPlace p (l ++ [a]) =
      (firstPlace p l).or (if p l.length a then some l.length else none) := by
  have hold : (List.range l.length).find? (fun k => (l ++ [a])[k]?.any (p k)) = firstPlace p l :=
    List.find?_congr fun k hk => by rw [List.getElem?_append_left (List.mem_range.mp hk)]
  rw [firstPlace, List.length_append, List.length_singleton, List.range_succ, List.find?_append,
    hold]
  simp [List.find?_singleton]

theorem firstPlace_map (f : β → α) (l : List β) :
    firstPlace p (l.map f) = firstPlace (fun k b => p k (f b)) l := by
  simp [firstPlace, Option.any_map]

end FirstPlace

/-! ## Choices -/

/-- A label that names the vertex stage. -/
def namesVertex (label : List Char) : Bool :=
  label = "vertex".toList || label = "vert".toList

/-- A label that names the fragment stage. -/
def namesFragment (label : List Char) : Bool :=
  label = "fragment".toList || label = "frag".toList

/-- A label that names neither stage, or none at all. -/
def isGeneric (label : List Char) : Bool :=
  !namesVertex label && !namesFragment label

variable {h : Hints} {labels : List (List Char)} {label : List Char}

/-- The block for the vertex stage: the first one that is labelled for it, or that names no stage
while the text speaks of a vertex shader. -/
def vertexPlace (h : Hints) (labels : List (List Char)) : Option Nat :=
  firstPlace (fun _ label => namesVertex label || h.vertex && isGeneric label) labels

/-- The block for the fragment stage: the first one that is labelled for it, or that names no stage,
while the text speaks of a fragment shader, and comes after the block for the vertex stage. -/
def fragmentPlace (h : Hints) (labels : List (List Char)) : Option Nat :=
  firstPlace (fun k label => namesFragment label ||
    h.fragment && isGeneric label && (vertexPlace h labels).any (· < k)) labels

/-- The block for the combined snippet: the first one that names no stage and is chosen for
neither. -/
def snippetPlace (h : Hints) (labels : List (List Char)) : Option Nat :=
  firstPlace (fun k label => isGeneric label &&
    vertexPlace h labels != some k && fragmentPlace h labels != some k) labels

/-- The block that is chosen for a field, as long as nothing is dropped. -/
def firstFor (h : Hints) (labels : List (List Char)) : Slot → Option Nat
  | .vertex => vertexPlace h labels
  | .fragment => fragmentPlace h labels
  | .combined => snippetPlace h labels

/-- Which blocks become which texts, by their places; not every text needs to have a block. -/
structure Choice where
  vertex : Option Nat
  fragment : Option Nat
  combined : Option Nat
  deriving DecidableEq, Repr

/-- The text of the block at a place. -/
def textAt (bodies : List (List Char)) (place : Option Nat) : Option String :=
  place.bind fun k => bodies[k]?.map String.ofList

namespace Choice

/-- The choice that labels and hints lead to. A snippet is dropped if both stages are there. -/
def ofLabels (h : Hints) (labels : List (List Char)) : Choice where
  vertex := vertexPlace h labels
  fragment := fragmentPlace h labels
  combined :=
    if (vertexPlace h labels).isSome && (fragmentPlace h labels).isSome then none
    else snippetPlace h labels

/-- The code that a choice makes of bodies. -/
def code (c : Choice) (bodies : List (List Char)) : ShaderCode where
  vertex := textAt bodies c.vertex
  fragment := textAt bodies c.fragment
  combined := textAt bodies c.combined

end Choice

/-! ## One block more -/

/-- Whether one block more is chosen for a field that is still free. -/
def suits (h : Hints) (labels : List (List Char)) (label : List Char) : Slot → Bool
  | .vertex => namesVertex label || h.vertex && isGeneric label
  | .fragment => namesFragment label ||
      h.fragment && isGeneric label && (vertexPlace h labels).isSome
  | .combined => isGeneric label && !(h.vertex && (vertexPlace h labels).isNone) &&
      !(h.fragment && (vertexPlace h labels).isSome && (fragmentPlace h labels).isNone)

theorem firstFor_lt {slot : Slot} {k : Nat} (hk : firstFor h labels slot = some k) :
    k < labels.length := by
  cases slot <;> exact firstPlace_lt hk

section OrNext

variable {o : Option Nat} {c : Bool} {k n : Nat}

/-- A place, or else the next place `n` if `c` holds. -/
def orNext (o : Option Nat) (c : Bool) (n : Nat) : Option Nat :=
  o.or (if c then some n else none)

theorem any_orNext (hk : k ≤ n) : (orNext o c n).any (· < k) = o.any (· < k) := by
  cases o with
  | none => cases c <;> simp [orNext, hk]
  | some j => rfl

theorem orNext_bne (hk : k < n) : (orNext o c n != some k) = (o != some k) := by
  cases o with
  | none =>
    have hne : n ≠ k := by omega
    rw [Bool.eq_iff_iff]
    cases c <;> simp [orNext, hne]
  | some j => rfl

theorem orNext_bne_next (ho : ∀ j, o = some j → j < n) :
    (orNext o c n != some n) = !(o.isNone && c) := by
  cases o with
  | none => cases c <;> simp [orNext]
  | some j =>
    have hne : j ≠ n := Nat.ne_of_lt (ho j rfl)
    simp [orNext, hne]

theorem isSome_textAt {bodies : List (List Char)} (ho : ∀ j, o = some j → j < bodies.length) :
    (textAt bodies o).isSome = o.isSome := by
  cases o with
  | none => rfl
  | some j => simp [textAt, ho j rfl]

theorem textAt_orNext {bodies : List (List Char)} (ho : ∀ j, o = some j → j < bodies.length)
    (body : List Char) : textAt (bodies ++ [body]) (orNext o c bodies.length) =
      (textAt bodies o).or (if c then some (String.ofList body) else none) := by
  cases o with
  | none => cases c <;> simp [orNext, textAt]
  | some j =>
    have hj := ho j rfl
    simp [orNext, textAt, List.getElem?_append_left hj, List.getElem?_eq_getElem hj]

end OrNext

theorem isGeneric_iff : isGeneric label = true ↔
    namesVertex label = false ∧ namesFragment label = false := by
  simp [isGeneric]

/-- **One block more** is chosen for each field that it suits and that is still free. -/
theorem firstFor_snoc (h : Hints) (labels : List (List Char)) (label : List Char) (slot : Slot) :
    firstFor h (labels ++ [label]) slot =
      orNext (firstFor h labels slot) (suits h labels label slot) labels.length := by
  have hvertex : vertexPlace h (labels ++ [label]) =
      orNext (vertexPlace h labels) (suits h labels label .vertex) labels.length :=
    firstPlace_snoc ..
  have hfragment : fragmentPlace h (labels ++ [label]) =
      orNext (fragmentPlace h labels) (suits h labels label .fragment) labels.length := by
    have hlt : (vertexPlace h labels).any (· < labels.length) = (vertexPlace h labels).isSome := by
      cases hv : vertexPlace h labels with
      | none => rfl
      | some k => simp [firstPlace_lt hv]
    rw [fragmentPlace, firstPlace_snoc, hvertex, any_orNext (Nat.le_refl _), hlt]
    refine congrArg (orNext · _ _) (firstPlace_congr fun k label hk => ?_)
    rw [any_orNext (Nat.le_of_lt (List.getElem?_eq_some_iff.mp hk).1)]
  cases slot with
  | vertex => exact hvertex
  | fragment => exact hfragment
  | combined =>
    -- the new block is left over if the two stages were not still looking for it
    have hnext : (isGeneric label && vertexPlace h (labels ++ [label]) != some labels.length &&
        fragmentPlace h (labels ++ [label]) != some labels.length) =
          suits h labels label .combined := by
      have hltv (k : Nat) (hk : vertexPlace h labels = some k) : k < labels.length :=
        firstPlace_lt hk
      have hltf (k : Nat) (hk : fragmentPlace h labels = some k) : k < labels.length :=
        firstPlace_lt hk
      rw [hvertex, hfragment, orNext_bne_next hltv, orNext_bne_next hltf]
      cases hg : isGeneric label with
      | false => simp [suits, hg]
      | true =>
        obtain ⟨hv, hf⟩ := isGeneric_iff.mp hg
        simp [suits, hg, hv, hf, Bool.and_comm]
    rw [firstFor, snippetPlace, firstPlace_snoc, hnext]
    refine congrArg (orNext · _ _) (firstPlace_congr fun k label hk => ?_)
    have hlt := (List.getElem?_eq_some_iff.mp hk).1
    rw [hvertex, hfragment, orNext_bne hlt, orNext_bne hlt]

/-! ## What the fold fills -/

variable {found : ShaderCode} {b : Block} {bs : List Block}

theorem namesVertex_iff :
    namesVertex label = true ↔ label = "vertex".toList ∨ label = "vert".toList := by
  simp only [namesVertex, Bool.or_eq_true, decide_eq_true_eq]

theorem not_namesFragment (hv : namesVertex label = true) : namesFragment label = false := by
  rcases namesVertex_iff.mp hv with rfl | rfl <;> decide

theorem stageOfLabel_of_namesVertex (hv : namesVertex label = true) :
    stageOfLabel label = some .vertex :=
  if_pos (namesVertex_iff.mp hv)

theorem stageOfLabel_of_not_namesVertex (hv : namesVertex label = false) :
    stageOfLabel label = if namesFragment label then some .fragment else none := by
  rw [stageOfLabel, if_neg (namesVertex_iff.not.mp (by simp [hv]))]
  simp only [namesFragment, Bool.or_eq_true, decide_eq_true_eq]

/-- A block is offered to a field that is still free exactly if it suits the field. -/
theorem slotFor_eq_iff
    (hfound : ∀ slot, (textOf found slot).isSome = (firstFor h labels slot).isSome)
    {slot : Slot} (hfree : textOf found slot = none) :
    slotFor h found label = slot ↔ suits h labels label slot = true := by
  cases hv : namesVertex label with
  | true =>
    have hf := not_namesFragment hv
    rw [slotFor, stageOfLabel_of_namesVertex hv]
    cases slot <;> simp [suits, isGeneric, hv, hf]
  | false =>
    cases hf : namesFragment label with
    | true =>
      rw [slotFor, stageOfLabel_of_not_namesVertex hv, hf]
      cases slot <;> simp [suits, isGeneric, hv, hf]
    | false =>
      have hvertex : found.vertex.isSome = (vertexPlace h labels).isSome := hfound .vertex
      have hfragment : found.fragment.isSome = (fragmentPlace h labels).isSome := hfound .fragment
      rw [slotFor, stageOfLabel_of_not_namesVertex hv, hf]
      simp only [suits, isGeneric, hv, hf, ← Option.not_isSome, ← hvertex, ← hfragment]
      cases slot with
      | vertex =>
        have hfree' : found.vertex = none := hfree
        cases h.vertex <;> simp [hfree']
      | fragment =>
        have hfree' : found.fragment = none := hfree
        cases h.vertex <;> cases found.vertex.isSome <;> simp [hfree']
      | combined =>
        cases h.vertex <;> cases h.fragment <;> cases found.vertex.isSome <;>
          cases found.fragment.isSome <;> simp

/-- One block more fills each field that it suits and that is still free. -/
theorem textOf_assign
    (hfound : ∀ slot, (textOf found slot).isSome = (firstFor h labels slot).isSome)
    (hb : b.body ≠ []) (slot : Slot) :
    textOf (assign h found b) slot = (textOf found slot).or
      (if suits h labels b.label slot then some (String.ofList b.body) else none) := by
  rw [assign, if_neg (by simpa using hb), textOf_fill]
  cases hfree : textOf found slot with
  | some t => simp
  | none =>
    have hslot : slotFor h found b.label = slot ↔ suits h labels b.label slot = true :=
      slotFor_eq_iff hfound hfree
    rw [Option.none_or, Option.none_or]
    exact if_congr (eq_comm.trans hslot) rfl rfl

/-- The fold fills each field with the block that is chosen for it. -/
theorem textOf_foldl_assign (h : Hints) (bs : List Block) (hbs : ∀ b ∈ bs, b.body ≠ [])
    (slot : Slot) : textOf (bs.foldl (assign h) {}) slot =
      textAt (bs.map Block.body) (firstFor h (bs.map Block.label) slot) := by
  -- from the end, since where a block goes depends on those before it
  induction bs using List.reverseRecOn generalizing slot with
  | nil => cases slot <;> rfl
  | append_singleton bs b ih =>
    have ih' := ih fun b' hb' => hbs b' (List.mem_append_left _ hb')
    have hlt {slot : Slot} (k : Nat) (hk : firstFor h (bs.map Block.label) slot = some k) :
        k < (bs.map Block.body).length := by
      simpa using firstFor_lt hk
    have hfound (slot : Slot) : (textOf (bs.foldl (assign h) {}) slot).isSome =
        (firstFor h (bs.map Block.label) slot).isSome := by
      rw [ih', isSome_textAt hlt]
    rw [List.foldl_append, List.foldl_cons, List.foldl_nil, textOf_assign hfound (hbs b (by simp)),
      ih', List.map_append, List.map_append, List.map_singleton, List.map_singleton, firstFor_snoc]
    have hlen : (bs.map Block.label).length = (bs.map Block.body).length := by simp
    rw [hlen, textAt_orNext hlt]

/-- A field is filled if there is a block for it. -/
theorem isSome_foldl_assign (h : Hints) (bs : List Block) (hbs : ∀ b ∈ bs, b.body ≠ [])
    (slot : Slot) : (textOf (bs.foldl (assign h) {}) slot).isSome =
      (firstFor h (bs.map Block.label) slot).isSome := by
  rw [textOf_foldl_assign h bs hbs, isSome_textAt fun k hk => by simpa using firstFor_lt hk]

/-! ## The code of a text -/

/-- The closed blocks of a text that have a body. -/
def written (text : List Char) : List Block :=
  (blocks text).filter fun b => !b.body.isEmpty

theorem body_ne_of_mem_written {text : List Char} {b : Block} (hb : b ∈ written text) :
    b.body ≠ [] := by
  simpa using (List.mem_filter.mp hb).2

/-- Blocks without a body do not count. -/
theorem foldl_assign_written (h : Hints) (text : List Char) (found : ShaderCode) :
    (written text).foldl (assign h) found = (blocks text).foldl (assign h) found := by
  rw [written, List.foldl_filter]
  congr 1
  funext found b
  cases hb : b.body.isEmpty <;> simp [assign, hb]

/-- Settling drops the snippet, if anything. -/
theorem settle_eq_code {bodies : List (List Char)} (hlen : bodies.length = labels.length)
    (hfound : ∀ slot, textOf found slot = textAt bodies (firstFor h labels slot)) :
    settle found = (Choice.ofLabels h labels).code bodies := by
  have hsome (slot : Slot) : (textOf found slot).isSome = (firstFor h labels slot).isSome := by
    rw [hfound, isSome_textAt fun k hk => hlen ▸ firstFor_lt hk]
  obtain ⟨vertex, fragment, combined⟩ := found
  obtain rfl : vertex = textAt bodies (vertexPlace h labels) := hfound .vertex
  obtain rfl : fragment = textAt bodies (fragmentPlace h labels) := hfound .fragment
  obtain rfl : combined = textAt bodies (snippetPlace h labels) := hfound .combined
  have hvertex : (textAt bodies (vertexPlace h labels)).isSome = _ := hsome .vertex
  have hfragment : (textAt bodies (fragmentPlace h labels)).isSome = _ := hsome .fragment
  simp only [settle, Choice.code, Choice.ofLabels, hvertex, hfragment, firstFor]
  split <;> rfl

/-- The code of a text by the choice that its labels and hints lead to. -/
theorem ofProse_eq_code (text : String) :
    ShaderCode.ofProse text = (Choice.ofLabels (Hints.ofText text.toList)
      ((written text.toList).map Block.label)).code ((written text.toList).map Block.body) := by
  rw [ShaderCode.ofProse]
  refine settle_eq_code (by simp) fun slot => ?_
  rw [← foldl_assign_written]
  exact textOf_foldl_assign _ _ (fun b hb => body_ne_of_mem_written hb) slot

/-- **Which block becomes which text.** Of the closed blocks with a body:

* The vertex stage is the first one that is labelled for it, or that names no stage while the text
  speaks of a vertex shader.
* The fragment stage is the first one that is labelled for it, or that names no stage, while the
  text speaks of a fragment shader, and stands behind the block of the vertex stage.
* The combined snippet is the first one that names no stage and is neither of these two, unless both
  of them are there.

There is no text where there is no such block. -/
theorem ofProse_first (text : String) :
    let bs := (blocks text.toList).filter fun b => !b.body.isEmpty
    let low := lowerAscii text.toList
    let mentionsVertex := occursIn "vertex shader".toList low
    let mentionsFragment := occursIn "fragment shader".toList low
    let vertex := firstPlace (fun _ b =>
      namesVertex b.label || mentionsVertex && isGeneric b.label) bs
    let fragment := firstPlace (fun k b => namesFragment b.label ||
      mentionsFragment && isGeneric b.label && vertex.any (· < k)) bs
    let combined := firstPlace (fun k b =>
      isGeneric b.label && vertex != some k && fragment != some k) bs
    ShaderCode.ofProse text = {
      vertex := textAt (bs.map Block.body) vertex
      fragment := textAt (bs.map Block.body) fragment
      combined :=
        if vertex.isSome && fragment.isSome then none
        else textAt (bs.map Block.body) combined } := by
  intro bs low mentionsVertex mentionsFragment vertex fragment combined
  have hvertex : vertexPlace (Hints.ofText text.toList) (bs.map Block.label) = vertex :=
    firstPlace_map ..
  have hfragment : fragmentPlace (Hints.ofText text.toList) (bs.map Block.label) = fragment := by
    rw [fragmentPlace, hvertex]
    exact firstPlace_map ..
  have hcombined : snippetPlace (Hints.ofText text.toList) (bs.map Block.label) = combined := by
    rw [snippetPlace, hvertex, hfragment]
    exact firstPlace_map ..
  have hcode := ofProse_eq_code text
  rw [show written text.toList = bs from rfl] at hcode
  rw [hcode, Choice.code, Choice.ofLabels, hvertex, hfragment, hcombined]
  cases vertex.isSome && fragment.isSome <;> rfl

end Fence

end LiveShader
