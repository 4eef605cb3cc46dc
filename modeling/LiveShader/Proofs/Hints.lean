import LiveShader.Proofs.Choice
import LiveShader.Proofs.FenceLines

/-!
# Where hints come from

A block that names no stage is sorted by what its text speaks of. The hints are looked for in the
whole text, and the lines of a text are its prose and its code, so a comment in a block can be a
hint as well as the prose around it.

* `picked` are the lines whose numbers have a property, so each line is picked or left.
* `proseLines` are the lines outside of the bodies, fence lines included, `codeLines` the others. A
  phrase without a line feed stands in a text if it stands in a line of it.
* No fence line is inside of a body, so the prose alone says how many blocks there are, and what
  they are labelled.
* A hint decides where a block goes only if the block comes before all that are labelled for the
  stage (`firstPlace_hint_eq_iff`).

Results:
* `Hints.ofText_eq`: the hints of a text are those of its prose and those of its code.
* `Choice.ofLabels_eq_iff`: which hints lead to one choice.
* `assigned_alike_iff`: which texts of one prose have their blocks assigned alike.
-/

namespace LiveShader

/-! ## Phrases and lines -/

namespace Text

variable {p : List Char} {c : Char}

theorem isPrefixOf_append_of_not_mem (hc : c ∉ p) (a b : List Char) :
    p.isPrefixOf (a ++ c :: b) = p.isPrefixOf a := by
  induction p generalizing a with
  | nil => simp
  | cons d p ih =>
    obtain ⟨hcd, hcp⟩ := not_or.mp (List.mem_cons.not.mp hc)
    cases a with
    | nil => simp [List.isPrefixOf, Ne.symm hcd]
    | cons e a =>
      rw [List.cons_append, List.isPrefixOf_cons_cons, List.isPrefixOf_cons_cons, ih hcp]

/-- A phrase does not reach over a character that is not in it. -/
theorem occursIn_append_of_not_mem (hp : p ≠ []) (hc : c ∉ p) (a b : List Char) :
    occursIn p (a ++ c :: b) = (occursIn p a || occursIn p b) := by
  have hempty : p.isEmpty = false := by simpa using hp
  induction a with
  | nil =>
    have hhead := isPrefixOf_append_of_not_mem hc [] b
    rw [List.nil_append] at hhead
    rw [List.nil_append, occursIn, occursIn, hhead]
    cases p <;> simp_all
  | cons d a ih =>
    rw [List.cons_append, occursIn, occursIn, ih, ← List.cons_append,
      isPrefixOf_append_of_not_mem hc, Bool.or_assoc]

/-- A phrase stands in lines that are joined if it stands in one of them. -/
theorem occursIn_flatten (hp : p ≠ []) (hfeed : '\n' ∉ p) {ls : List (List Char)}
    (h : ∀ l ∈ ls.dropLast, l.getLast? = some '\n') :
    occursIn p ls.flatten = ls.any (occursIn p) := by
  have hnil : occursIn p [] = false := by simpa [occursIn] using hp
  induction ls with
  | nil => exact hnil
  | cons l ls ih =>
    cases ls with
    | nil => simp
    | cons l' ls =>
      rw [List.dropLast_cons_of_ne_nil (by simp)] at h
      obtain ⟨hlast, hrest⟩ := List.forall_mem_cons.mp h
      obtain ⟨a, rfl⟩ := List.getLast?_eq_some_iff.mp hlast
      have hline : occursIn p (a ++ ['\n']) = occursIn p a := by
        rw [occursIn_append_of_not_mem hp hfeed, hnil, Bool.or_false]
      rw [List.flatten_cons, List.append_assoc, List.singleton_append,
        occursIn_append_of_not_mem hp hfeed, ih hrest, ← hline]
      rfl

/-- A phrase stands in a text, in whatever case, if it stands in a line of it. -/
theorem occursIn_lowerAscii (hp : p ≠ []) (hfeed : '\n' ∉ p) (text : List Char) :
    occursIn p (lowerAscii text) = (lines text).any fun l => occursIn p (lowerAscii l) := by
  have hcut := lines_cut text
  have hjoined : ((lines text).map lowerAscii).flatten = lowerAscii text := by
    rw [← congrArg lowerAscii hcut.joined]
    exact List.map_flatten.symm
  rw [← hjoined, occursIn_flatten hp hfeed, List.any_map]
  · rfl
  · rw [← List.map_dropLast]
    intro low hlow
    obtain ⟨l, hl, rfl⟩ := List.mem_map.mp hlow
    rw [lowerAscii, List.getLast?_map, hcut.after_feed l hl]
    rfl

end Text

namespace Fence

open LiveShader.Text

/-! ## Lines that are picked by their numbers -/

section Picked

variable {f g : Nat → Bool} {n : Nat} {ls ls' : List (List Char)}

/-- The lines whose number has a property; the first line has the number `n`. -/
def picked (f : Nat → Bool) (n : Nat) (ls : List (List Char)) : List (List Char) :=
  ((ls.zipIdx n).filter fun l => f l.2).map Prod.fst

theorem picked_sublist (f : Nat → Bool) (n : Nat) (ls : List (List Char)) :
    (picked f n ls).Sublist ls := by
  have hsub := (List.filter_sublist (p := fun l : List Char × Nat => f l.2) (l := ls.zipIdx n)).map
    Prod.fst
  rwa [List.zipIdx_map_fst] at hsub

theorem picked_append : picked f n (ls ++ ls') = picked f n ls ++ picked f (n + ls.length) ls' := by
  simp [picked, List.zipIdx_append]

theorem picked_congr (h : ∀ i, n ≤ i → i < n + ls.length → f i = g i) :
    picked f n ls = picked g n ls := by
  refine congrArg _ (List.filter_congr fun l hl => ?_)
  exact h l.2 (List.le_snd_of_mem_zipIdx hl) (List.snd_lt_add_of_mem_zipIdx hl)

theorem picked_const (b : Bool) : picked (fun _ => b) n ls = if b then ls else [] := by
  cases b <;> simp [picked]

/-- Every line is picked or left. -/
theorem any_picked (g : List Char → Bool) : ls.any g =
    ((picked (fun i => !f i) n ls).any g || (picked f n ls).any g) := by
  have hlines : ls.any g = (ls.zipIdx n).any (g ∘ Prod.fst) := by
    rw [← List.any_map, List.zipIdx_map_fst]
  rw [hlines, picked, picked, List.any_map, List.any_map, List.any_filter, List.any_filter]
  induction ls.zipIdx n with
  | nil => rfl
  | cons l ls ih =>
    simp only [List.any_cons, ih]
    cases f l.2 <;> simp [Bool.or_assoc, Bool.or_left_comm]

end Picked

/-! ## Prose and code -/

/-- Whether the line with the number `i` is in the body of a block, strictly between its two fence
lines. -/
def inBody (ls : List (List Char)) (i : Nat) : Bool :=
  (inTwos (fences ls)).any fun p => p.1.2 < i && i < p.2.2

/-- The lines outside of the bodies of blocks, fence lines included. -/
def proseLines (text : List Char) : List (List Char) :=
  ((lines text).zipIdx.filter fun l => !inBody (lines text) l.2).map Prod.fst

/-- The lines of the bodies of blocks. -/
def codeLines (text : List Char) : List (List Char) :=
  ((lines text).zipIdx.filter fun l => inBody (lines text) l.2).map Prod.fst

/-- Two texts that differ in the bodies of their blocks alone. -/
def SameProse (s t : List Char) : Prop :=
  proseLines s = proseLines t

variable {ls : List (List Char)} {f : List Char × Nat} {s t : List Char}

/-- No fence line is between two that are taken together. -/
theorem inBody_of_mem_fences (hf : f ∈ fences ls) : inBody ls f.2 = false := by
  rw [inBody, List.any_eq_false]
  intro p hp
  obtain ⟨before, after, hls⟩ := infix_of_mem_inTwos hp
  have horder := pairwise_fences ls
  rw [← hls] at hf horder
  obtain ⟨hfront, -, hback⟩ := List.pairwise_append.mp horder
  obtain ⟨-, -, hbefore⟩ := List.pairwise_append.mp hfront
  have hplace : f.2 ≤ p.1.2 ∨ p.2.2 ≤ f.2 := by
    rcases List.mem_append.mp hf with hf | hf
    · rcases List.mem_append.mp hf with hf | hf
      · exact .inl (Nat.le_of_lt (hbefore f hf p.1 (by simp)))
      · rcases List.mem_pair.mp hf with rfl | rfl
        · exact .inl (Nat.le_refl _)
        · exact .inr (Nat.le_refl _)
    · exact .inr (Nat.le_of_lt (hback p.2 (by simp) f hf))
  simp only [Bool.and_eq_true, decide_eq_true_eq, not_and, Nat.not_lt]
  omega

theorem map_fst_fences (ls : List (List Char)) : (fences ls).map Prod.fst = ls.filter isFence := by
  rw [fences, fencesFrom, ← Function.comp_def isFence, ← List.filter_map, List.zipIdx_map_fst]

/-- The prose of a text has all of its fence lines. -/
theorem filter_proseLines (text : List Char) :
    (proseLines text).filter isFence = (lines text).filter isFence := by
  rw [← map_fst_fences (lines text), proseLines, List.filter_map, List.filter_filter]
  refine congrArg _ (List.filter_congr fun l hl => ?_)
  cases hfence : isFence l.1 with
  | false => simp [hfence]
  | true =>
    have hmem : l ∈ fences (lines text) := List.mem_filter.mpr ⟨hl, hfence⟩
    simp [hfence, inBody_of_mem_fences hmem]

theorem inTwos_map {α β : Type} (g : α → β) (l : List α) :
    inTwos (l.map g) = (inTwos l).map (Prod.map g g) := by
  fun_induction inTwos l with
  | case1 | case2 => rfl
  | case3 a b l ih => simp [inTwos, ih]

/-- The labels of a text, by its fence lines alone. -/
theorem map_label_blocks (text : List Char) : (blocks text).map Block.label =
    (inTwos ((lines text).filter isFence)).map fun p =>
      labelOf ((trimStart p.1).drop ticks.length) := by
  rw [blocks_eq, List.map_map, ← map_fst_fences, inTwos_map, List.map_map]
  rfl

/-- The prose of a text says how its blocks are labelled, and how many there are. -/
theorem SameProse.map_label (h : SameProse s t) :
    (blocks s).map Block.label = (blocks t).map Block.label := by
  rw [map_label_blocks, map_label_blocks, ← filter_proseLines s, ← filter_proseLines t, h]

/-! ## Hints by lines -/

/-- The hints of lines. -/
def Hints.ofLines (ls : List (List Char)) : Hints where
  vertex := ls.any fun l => occursIn "vertex shader".toList (lowerAscii l)
  fragment := ls.any fun l => occursIn "fragment shader".toList (lowerAscii l)

/-- Every line is prose or code. -/
theorem any_lines (g : List Char → Bool) (text : List Char) :
    (lines text).any g = ((proseLines text).any g || (codeLines text).any g) :=
  any_picked g

/-- The hints of a text are those of its lines. -/
theorem Hints.ofText_eq_ofLines (text : List Char) :
    Hints.ofText text = Hints.ofLines (lines text) := by
  simp only [Hints.ofText, Hints.ofLines]
  rw [occursIn_lowerAscii (by decide) (by decide), occursIn_lowerAscii (by decide) (by decide)]

/-- **The hints of a text** are those of its prose and those of its code. -/
theorem Hints.ofText_eq (text : List Char) : Hints.ofText text =
    ⟨(Hints.ofLines (proseLines text)).vertex || (Hints.ofLines (codeLines text)).vertex,
      (Hints.ofLines (proseLines text)).fragment || (Hints.ofLines (codeLines text)).fragment⟩ := by
  rw [Hints.ofText_eq_ofLines]
  simp only [Hints.ofLines, ← any_lines]

/-! ## Where a hint matters -/

section Led

variable {α : Type} {p q : Nat → α → Bool} {l : List α}

/-- Each place with `q` comes behind a place with `p`. -/
def Led (p q : Nat → α → Bool) (l : List α) : Prop :=
  ∀ k a, l[k]? = some a → q k a = true → ∃ j < k, ∃ a', l[j]? = some a' ∧ p j a' = true

instance : Decidable (Led p q l) :=
  decidable_of_iff (∀ k < l.length, l[k]?.any (q k) = true → ∃ j < k, l[j]?.any (p j) = true) (by
    simp only [Led, Option.any_eq_true]
    constructor
    · intro h k a ha hq
      exact h k (List.getElem?_eq_some_iff.mp ha).1 ⟨a, ha, hq⟩
    · rintro h k - ⟨a, ha, hq⟩
      exact h k a ha hq)

/-- Where no place with `p` came before, there is none with `q`. -/
theorem Led.eq_false (hled : Led p q l) {k : Nat} {a : α} (ha : l[k]? = some a)
    (hbefore : ∀ j < k, ∀ a', l[j]? = some a' → p j a' = false) : q k a = false := by
  rw [Bool.eq_false_iff]
  intro hq
  obtain ⟨j, hj, a', ha', hp⟩ := hled k a ha hq
  simp [hbefore j hj a' ha'] at hp

/-- A further property changes nothing about the first place exactly if it comes second anywhere. -/
theorem firstPlace_or_eq_iff (hpq : ∀ k a, p k a = true → q k a = false) :
    firstPlace (fun k a => p k a || q k a) l = firstPlace p l ↔ Led p q l := by
  constructor
  · intro heq k a ha hq
    cases hfirst : firstPlace p l with
    | none =>
      have hnone := firstPlace_eq_none.mp (heq.trans hfirst) k a ha
      simp [hq] at hnone
    | some m =>
      -- the first place with either is `m`, so `k` is not before it
      obtain ⟨⟨a', ha', hp⟩, -⟩ := firstPlace_eq_some.mp hfirst
      obtain ⟨-, hbefore⟩ := firstPlace_eq_some.mp (heq.trans hfirst)
      have hle : m ≤ k := by
        by_contra hlt
        have hk := hbefore k (Nat.lt_of_not_le hlt) a ha
        simp [hq] at hk
      have hne : m ≠ k := by
        rintro rfl
        obtain rfl : a' = a := Option.some_inj.mp (ha'.symm.trans ha)
        simp [hpq m a' hp] at hq
      exact ⟨m, Nat.lt_of_le_of_ne hle hne, a', ha', hp⟩
  · intro hled
    cases hfirst : firstPlace p l with
    | none =>
      have hnone := firstPlace_eq_none.mp hfirst
      refine firstPlace_eq_none.mpr fun k a ha => ?_
      rw [hnone k a ha, hled.eq_false ha fun j _ => hnone j, Bool.or_false]
    | some m =>
      obtain ⟨⟨a, ha, hp⟩, hbefore⟩ := firstPlace_eq_some.mp hfirst
      refine firstPlace_eq_some.mpr ⟨⟨a, ha, by rw [hp, Bool.true_or]⟩, fun k hk a' ha' => ?_⟩
      have hbefore' (j : Nat) (hj : j < k) := hbefore j (Nat.lt_trans hj hk)
      rw [hbefore k hk a' ha', hled.eq_false ha' hbefore', Bool.or_false]

/-- A hint decides nothing exactly if all that it speaks for comes second anyway. -/
theorem firstPlace_hint_eq_iff (hpq : ∀ k a, p k a = true → q k a = false) (x y : Bool) :
    firstPlace (fun k a => p k a || x && q k a) l = firstPlace (fun k a => p k a || y && q k a) l ↔
      x = y ∨ Led p q l := by
  rw [← firstPlace_or_eq_iff hpq]
  cases x <;> cases y <;> simp [eq_comm]

end Led

section Hinted

variable {h h' : Hints} {labels : List (List Char)}

/-- The labels leave nothing to a hint for the vertex stage: every block that names no stage comes
behind one that is labelled for it. -/
def VertexLed (labels : List (List Char)) : Prop :=
  Led (fun _ label => namesVertex label) (fun _ label => isGeneric label) labels

/-- The labels leave nothing to a hint for the fragment stage: every block that names no stage and
comes behind the one for the vertex stage comes behind one that is labelled for it. -/
def FragmentLed (h : Hints) (labels : List (List Char)) : Prop :=
  Led (fun _ label => namesFragment label)
    (fun k label => isGeneric label && (vertexPlace h labels).any (· < k)) labels

theorem vertexPlace_eq_iff : vertexPlace h labels = vertexPlace h' labels ↔
    h.vertex = h'.vertex ∨ VertexLed labels :=
  firstPlace_hint_eq_iff (fun _ label hv => by simp [isGeneric, hv]) h.vertex h'.vertex

theorem fragmentPlace_eq_iff (hvertex : vertexPlace h labels = vertexPlace h' labels) :
    fragmentPlace h labels = fragmentPlace h' labels ↔
      h.fragment = h'.fragment ∨ FragmentLed h labels := by
  simp only [fragmentPlace, ← hvertex, Bool.and_assoc]
  exact firstPlace_hint_eq_iff (fun _ label hf => by simp [isGeneric, hf]) h.fragment h'.fragment

/-- **Which hints lead to one choice.** -/
theorem Choice.ofLabels_eq_iff : Choice.ofLabels h labels = Choice.ofLabels h' labels ↔
    (h.vertex = h'.vertex ∨ VertexLed labels) ∧
      (h.fragment = h'.fragment ∨ FragmentLed h labels) := by
  constructor
  · intro heq
    have hvertex : vertexPlace h labels = vertexPlace h' labels := congrArg Choice.vertex heq
    have hfragment : fragmentPlace h labels = fragmentPlace h' labels :=
      congrArg Choice.fragment heq
    exact ⟨vertexPlace_eq_iff.mp hvertex, (fragmentPlace_eq_iff hvertex).mp hfragment⟩
  · rintro ⟨hv, hf⟩
    have hvertex := vertexPlace_eq_iff.mpr hv
    have hfragment := (fragmentPlace_eq_iff hvertex).mpr hf
    simp only [Choice.ofLabels, snippetPlace, hvertex, hfragment]

end Hinted

/-! ## What tells choices apart -/

section Places

variable {bodies bodies' : List (List Char)} {o p p' : Option Nat}

/-- Where no two bodies are alike, a text tells the place that it is from. -/
theorem eq_of_textAt_eq (hnodup : bodies.Nodup) {k : Nat} (hk : k < bodies.length)
    (h : textAt bodies o = textAt bodies (some k)) : o = some k := by
  have htext : textAt bodies (some k) = some (String.ofList bodies[k]) := by simp [textAt, hk]
  cases o with
  | none => cases h.trans htext
  | some j =>
    obtain ⟨body, hbody, heq⟩ := Option.map_eq_some_iff.mp (h.trans htext)
    obtain rfl : body = bodies[k] := String.ofList_injective heq
    have hsame : bodies[k]? = bodies[j]? := by rw [hbody, List.getElem?_eq_getElem hk]
    rw [(List.getElem?_inj hk hnodup).mp hsame]

/-- One place that does for bodies and for others is the place for both. -/
theorem eq_of_textAt (hlen : bodies'.length = bodies.length) (hnodup : bodies.Nodup)
    (hnodup' : bodies'.Nodup) (hp : ∀ k, p = some k → k < bodies.length)
    (hp' : ∀ k, p' = some k → k < bodies.length) (h : textAt bodies o = textAt bodies p)
    (h' : textAt bodies' o = textAt bodies' p') : p = p' := by
  cases p with
  | some k =>
    obtain rfl := eq_of_textAt_eq hnodup (hp k rfl) h
    exact (eq_of_textAt_eq hnodup' (hlen ▸ hp k rfl) h'.symm).symm
  | none =>
    cases p' with
    | none => rfl
    | some k =>
      -- then `k` is a place of the first bodies too, and has a text there
      obtain rfl := eq_of_textAt_eq hnodup' (hlen ▸ hp' k rfl) h'
      have hsome : (textAt bodies (some k)).isSome = true := isSome_textAt hp'
      rw [h] at hsome
      cases hsome

variable {h h' : Hints} {labels : List (List Char)} {c : Choice}

theorem Choice.ofLabels_combined_lt {k : Nat} (hk : (Choice.ofLabels h labels).combined = some k) :
    k < labels.length := by
  simp only [Choice.ofLabels] at hk
  split at hk
  · cases hk
  · exact firstPlace_lt hk

/-- Hints that have one choice in common, for bodies and for others, lead to one choice. -/
theorem Choice.ofLabels_eq_of_code (hlen : bodies.length = labels.length)
    (hlen' : bodies'.length = labels.length) (hnodup : bodies.Nodup) (hnodup' : bodies'.Nodup)
    (hc : (Choice.ofLabels h labels).code bodies = c.code bodies)
    (hc' : (Choice.ofLabels h' labels).code bodies' = c.code bodies') :
    Choice.ofLabels h labels = Choice.ofLabels h' labels := by
  obtain ⟨hv, hf, hs⟩ := ShaderCode.mk.inj hc
  obtain ⟨hv', hf', hs'⟩ := ShaderCode.mk.inj hc'
  have hplace {o p p' : Option Nat} (hp : ∀ k, p = some k → k < labels.length)
      (hp' : ∀ k, p' = some k → k < labels.length) (heq : textAt bodies p = textAt bodies o)
      (heq' : textAt bodies' p' = textAt bodies' o) : p = p' :=
    eq_of_textAt (hlen'.trans hlen.symm) hnodup hnodup' (hlen ▸ hp) (hlen ▸ hp') heq.symm heq'.symm
  rw [Choice.mk.injEq]
  refine ⟨hplace ?_ ?_ hv hv', hplace ?_ ?_ hf hf', hplace ?_ ?_ hs hs'⟩
  · exact fun k hk => firstPlace_lt hk
  · exact fun k hk => firstPlace_lt hk
  · exact fun k hk => firstPlace_lt hk
  · exact fun k hk => firstPlace_lt hk
  · exact fun k => ofLabels_combined_lt
  · exact fun k => ofLabels_combined_lt

end Places

/-! ## Texts of one prose -/

/-- The bodies of the blocks of a text. -/
def bodies (text : List Char) : List (List Char) :=
  (blocks text).map Block.body

/-- The blocks of two texts are assigned to the fields in one way. -/
def AssignedAlike (s t : String) : Prop :=
  ∃ c : Choice, ShaderCode.ofProse s = c.code (bodies s.toList) ∧
    ShaderCode.ofProse t = c.code (bodies t.toList)

/-- Where every block has a body, no block is left out. -/
theorem ofProse_eq_code_of_ne {text : String} (h : ∀ b ∈ blocks text.toList, b.body ≠ []) :
    ShaderCode.ofProse text = (Choice.ofLabels (Hints.ofText text.toList)
      ((blocks text.toList).map Block.label)).code (bodies text.toList) := by
  have hwritten : written text.toList = blocks text.toList :=
    List.filter_eq_self.mpr fun b hb => by simpa using h b hb
  rw [ofProse_eq_code, hwritten, bodies]

theorem or_eq_or_iff (x y z : Bool) : (x || y) = (x || z) ↔ x = true ∨ y = z := by
  cases x <;> simp

/-- **Which texts of one prose have their blocks assigned alike.** Texts that differ in the bodies
of their blocks alone, none of them blank, have blocks with the same labels. Their hints are those
of the common prose and those of the code of each.

* The blocks are assigned alike if, for each stage, the prose speaks of it, or the code of both
  texts or of neither does, or the labels leave nothing to a hint for that stage.
* There is no other way, as long as no two bodies of a text are the same. -/
theorem assigned_alike_iff (s t : String) (hprose : SameProse s.toList t.toList)
    (hs : ∀ b ∈ blocks s.toList, b.body ≠ []) (ht : ∀ b ∈ blocks t.toList, b.body ≠ []) :
    let labels := (blocks s.toList).map Block.label
    let prose := Hints.ofLines (proseLines s.toList)
    let inS := Hints.ofLines (codeLines s.toList)
    let inT := Hints.ofLines (codeLines t.toList)
    let Alike := (prose.vertex = true ∨ inS.vertex = inT.vertex ∨ VertexLed labels) ∧
      (prose.fragment = true ∨ inS.fragment = inT.fragment ∨
        FragmentLed (Hints.ofText s.toList) labels)
    (blocks t.toList).map Block.label = labels ∧ (Alike → AssignedAlike s t) ∧
      ((bodies s.toList).Nodup → (bodies t.toList).Nodup → AssignedAlike s t → Alike) := by
  intro labels prose inS inT Alike
  have hlabels : (blocks t.toList).map Block.label = labels := hprose.map_label.symm
  have hcode := ofProse_eq_code_of_ne hs
  have hcode' := ofProse_eq_code_of_ne ht
  rw [hlabels] at hcode'
  have halike : Choice.ofLabels (Hints.ofText s.toList) labels =
      Choice.ofLabels (Hints.ofText t.toList) labels ↔ Alike := by
    have hvertex : (Hints.ofText s.toList).vertex = (Hints.ofText t.toList).vertex ↔
        prose.vertex = true ∨ inS.vertex = inT.vertex := by
      rw [Hints.ofText_eq, Hints.ofText_eq, ← hprose]
      exact or_eq_or_iff ..
    have hfragment : (Hints.ofText s.toList).fragment = (Hints.ofText t.toList).fragment ↔
        prose.fragment = true ∨ inS.fragment = inT.fragment := by
      rw [Hints.ofText_eq, Hints.ofText_eq, ← hprose]
      exact or_eq_or_iff ..
    rw [Choice.ofLabels_eq_iff, hvertex, hfragment, or_assoc, or_assoc]
  refine ⟨hlabels, fun h => ?_, fun hnodup hnodup' h => ?_⟩
  · exact ⟨_, hcode, (halike.mpr h).symm ▸ hcode'⟩
  · obtain ⟨c, hc, hc'⟩ := h
    have hlen : (bodies s.toList).length = labels.length := by simp [bodies, labels]
    have hlen' : (bodies t.toList).length = labels.length := by simp [bodies, ← hlabels]
    exact halike.mp (Choice.ofLabels_eq_of_code hlen hlen' hnodup hnodup' (hcode.symm.trans hc)
      (hcode'.symm.trans hc'))

/-- Comments that speak of stages change nothing where labels and prose say enough. -/
theorem assigned_alike_labelled :
    let s := "Vertex shader:\n```\na\n```\n```frag\nb\n```\n```\nc\n```"
    let t := "Vertex shader:\n```\nvertex shader\n```\n```frag\nfragment shader\n```\n```\nc\n```"
    SameProse s.toList t.toList ∧ (∀ b ∈ blocks s.toList, b.body ≠ []) ∧
      (∀ b ∈ blocks t.toList, b.body ≠ []) ∧ AssignedAlike s t := by
  intro s t
  have hprose : SameProse s.toList t.toList := by unfold SameProse; decide +kernel
  have hs : ∀ b ∈ blocks s.toList, b.body ≠ [] := by decide +kernel
  have ht : ∀ b ∈ blocks t.toList, b.body ≠ [] := by decide +kernel
  obtain ⟨-, halike, -⟩ := assigned_alike_iff s t hprose hs ht
  refine ⟨hprose, hs, ht, halike ⟨.inl (by decide +kernel), .inr (.inr ?_)⟩⟩
  unfold FragmentLed
  decide +kernel

/-- **A comment decides which stage its block is.** The prose names none, and neither does the
label. -/
theorem moved_by_comment :
    let s := "A shader:\n```glsl\n// not a vertex shader\nprecision highp float;\n```\n"
    let t := "A shader:\n```glsl\nprecision highp float;\n```\n"
    SameProse s.toList t.toList ∧ (blocks s.toList).length = (blocks t.toList).length ∧
      (∀ b ∈ blocks s.toList, b.body ≠ []) ∧ (∀ b ∈ blocks t.toList, b.body ≠ []) ∧
      ¬ AssignedAlike s t := by
  intro s t
  have hprose : SameProse s.toList t.toList := by unfold SameProse; decide +kernel
  have hs : ∀ b ∈ blocks s.toList, b.body ≠ [] := by decide +kernel
  have ht : ∀ b ∈ blocks t.toList, b.body ≠ [] := by decide +kernel
  refine ⟨hprose, by decide +kernel, hs, ht, ?_⟩
  rintro ⟨c, hc, hc'⟩
  -- one place would have to give the vertex stage of the one text and none of the other
  have hcode := (ofProse_eq_code_of_ne hs).symm.trans hc
  have hcode' := (ofProse_eq_code_of_ne ht).symm.trans hc'
  rw [← hprose.map_label] at hcode'
  have hsame := Choice.ofLabels_eq_of_code (by simp [bodies])
    (by rw [hprose.map_label]; simp [bodies]) (by decide +kernel) (by decide +kernel) hcode hcode'
  have hvertex := congrArg Choice.vertex hsame
  revert hvertex
  decide +kernel

end Fence

end LiveShader
