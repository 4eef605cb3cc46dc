import LiveShader.Proofs.Hints

/-!
# Deleting blocks from a text

The blocks with a certain label can be deleted from a text, fence lines included. What is left has
the other blocks, in their order and with their bodies, and speaks of the same stages unless the
deleted lines speak of one.

* `linesWithin` and `without` say by place alone which lines go and which stay.
* Lines are looked at block by block (`block_induction`). Behind a block, everything is as if the
  lines started there, but for their numbers.

Results:
* `blocks_without`: deleting blocks deletes them and no others.
* `Hints.ofText_without`: what a text speaks of without some of its blocks.
-/

namespace LiveShader

namespace Fence

open LiveShader.Text

/-! ## Lines block by block -/

/-- Lines have no fence line, or a first one. -/
theorem exists_first_fence (ls : List (List Char)) : (∀ l ∈ ls, isFence l = false) ∨
    ∃ before line rest, ls = before ++ line :: rest ∧ (∀ l ∈ before, isFence l = false) ∧
      isFence line = true := by
  cases h : ls.find? isFence with
  | none =>
    left
    simpa using List.find?_eq_none.mp h
  | some line =>
    obtain ⟨hline, before, rest, rfl, hbefore⟩ := List.find?_eq_some_iff_append.mp h
    exact .inr ⟨before, line, rest, rfl, by simpa using hbefore, hline⟩

/-- What holds of lines with one fence line at most, and of a block with prose before it if it holds
of the lines behind the block, holds of all lines. -/
theorem block_induction {P : List (List Char) → Prop}
    (few : ∀ ls, ls.countP isFence ≤ 1 → P ls)
    (block : ∀ prose opening inner closing rest, (∀ l ∈ prose, isFence l = false) →
      isFence opening = true → (∀ l ∈ inner, isFence l = false) → isFence closing = true →
        P rest → P (prose ++ opening :: (inner ++ closing :: rest)))
    (ls : List (List Char)) : P ls := by
  have hzero {ls : List (List Char)} (h : ∀ l ∈ ls, isFence l = false) : ls.countP isFence = 0 :=
    List.countP_eq_zero.mpr fun l hl => by simp [h l hl]
  induction hn : ls.length using Nat.strongRecOn generalizing ls with
  | ind n ih =>
    rcases exists_first_fence ls with hnone | ⟨prose, opening, rest, rfl, hprose, hopening⟩
    · exact few ls (by rw [hzero hnone]; exact Nat.zero_le 1)
    rcases exists_first_fence rest with hnone | ⟨inner, closing, rest, rfl, hinner, hclosing⟩
    · refine few _ ?_
      rw [List.countP_append, List.countP_cons_of_pos hopening, hzero hprose, hzero hnone]
    · refine block _ _ _ _ _ hprose hopening hinner hclosing (ih rest.length ?_ rest rfl)
      simp only [List.length_append, List.length_cons] at hn
      omega

theorem length_fencesFrom (n : Nat) (ls : List (List Char)) :
    (fencesFrom n ls).length = ls.countP isFence := by
  rw [fencesFrom, ← List.countP_eq_length_filter, ← Function.comp_def isFence, ← List.countP_map,
    List.zipIdx_map_fst]

theorem fencesFrom_append {before : List (List Char)} (h : ∀ l ∈ before, isFence l = false)
    (n : Nat) (rest : List (List Char)) :
    fencesFrom n (before ++ rest) = fencesFrom (n + before.length) rest := by
  induction before generalizing n with
  | nil => rfl
  | cons line before ih =>
    obtain ⟨hline, hbefore⟩ := List.forall_mem_cons.mp h
    rw [List.cons_append, fencesFrom_cons_of_not hline, ih hbefore, List.length_cons]
    congr 1
    omega

/-- Two fence lines with no other in between are taken together. -/
theorem inTwos_fencesFrom_block {prose inner rest : List (List Char)} {opening closing : List Char}
    (hprose : ∀ l ∈ prose, isFence l = false) (hopening : isFence opening = true)
    (hinner : ∀ l ∈ inner, isFence l = false) (hclosing : isFence closing = true) (n : Nat) :
    let start := n + prose.length
    let stop := start + 1 + inner.length
    inTwos (fencesFrom n (prose ++ opening :: (inner ++ closing :: rest))) =
      ((opening, start), (closing, stop)) :: inTwos (fencesFrom (stop + 1) rest) := by
  intro start stop
  rw [fencesFrom_append hprose, fencesFrom_cons hopening, fencesFrom_append hinner,
    fencesFrom_cons hclosing, inTwos]

theorem le_of_mem_inTwos_fencesFrom {n : Nat} {ls : List (List Char)}
    {p : (List Char × Nat) × (List Char × Nat)} (h : p ∈ inTwos (fencesFrom n ls)) : n ≤ p.1.2 := by
  have hmem : p.1 ∈ fencesFrom n ls := (infix_of_mem_inTwos h).subset (by simp)
  have hmem' := (List.mem_filter.mp hmem).1
  exact List.le_snd_of_mem_zipIdx hmem'

/-! ## Deleting blocks -/

/-- Whether the line with the number `i` belongs to a block whose label has the property `p`, the
two fence lines included. The block is one of these pairs of fence lines. -/
def within (p : List Char → Bool) (pairs : List ((List Char × Nat) × (List Char × Nat)))
    (i : Nat) : Bool :=
  pairs.any fun q => p (labelOf ((trimStart q.1.1).drop ticks.length)) && q.1.2 ≤ i && i ≤ q.2.2

variable {p : List Char → Bool} {n i : Nat} {rest : List (List Char)}

/-- No block to come goes over lines before it. -/
theorem within_eq_false (h : i < n) : within p (inTwos (fencesFrom n rest)) i = false := by
  rw [within, List.any_eq_false]
  intro q hq
  have hle := le_of_mem_inTwos_fencesFrom hq
  simp only [Bool.and_eq_true, decide_eq_true_eq, not_and]
  omega

/-- A block that goes over the lines from `start` to `stop`, and the blocks behind it. -/
theorem within_cons (opening closing : List Char) (rest : List (List Char)) {start stop : Nat}
    (hle : start ≤ stop) (i : Nat) :
    within p (((opening, start), (closing, stop)) :: inTwos (fencesFrom (stop + 1) rest)) i =
      if i < start then false
      else if i ≤ stop then p (labelOf ((trimStart opening).drop ticks.length))
      else within p (inTwos (fencesFrom (stop + 1) rest)) i := by
  rw [within, List.any_cons, ← within]
  by_cases hstart : i < start
  · have hlater : within p (inTwos (fencesFrom (stop + 1) rest)) i = false :=
      within_eq_false (by omega)
    simp [hstart, Nat.not_le.mpr hstart, hlater]
  · by_cases hstop : i ≤ stop
    · have hlater : within p (inTwos (fencesFrom (stop + 1) rest)) i = false :=
        within_eq_false (Nat.lt_succ_of_le hstop)
      simp [hstart, Nat.not_lt.mp hstart, hstop, hlater]
    · simp [hstart, hstop]

/-- Deleting blocks from lines of which the first have a block. -/
theorem picked_block (p : List Char → Bool) (n : Nat) (rest : List (List Char))
    {prose inner : List (List Char)} {opening closing : List Char}
    (hprose : ∀ l ∈ prose, isFence l = false) (hopening : isFence opening = true)
    (hinner : ∀ l ∈ inner, isFence l = false) (hclosing : isFence closing = true) :
    ∃ m, picked (fun i => !within p (inTwos (fencesFrom n
        (prose ++ opening :: (inner ++ closing :: rest)))) i) n
          (prose ++ opening :: (inner ++ closing :: rest)) =
      prose ++ ((if p (labelOf ((trimStart opening).drop ticks.length)) then []
          else opening :: (inner ++ [closing])) ++
        picked (fun i => !within p (inTwos (fencesFrom m rest)) i) m rest) := by
  let start := n + prose.length
  let stop := start + 1 + inner.length
  refine ⟨stop + 1, ?_⟩
  have hsplit : prose ++ opening :: (inner ++ closing :: rest) =
      prose ++ (opening :: (inner ++ [closing]) ++ rest) := by simp
  have hlength : start + (opening :: (inner ++ [closing])).length = stop + 1 := by
    simp only [List.length_cons, List.length_append, List.length_nil]
    omega
  have hwithin := within_cons (p := p) opening closing rest (show start ≤ stop by omega)
  rw [inTwos_fencesFrom_block hprose hopening hinner hclosing, hsplit, picked_append, picked_append,
    hlength]
  congr 1
  · rw [picked_congr (g := fun _ => true), picked_const, if_pos rfl]
    intro i _ hi
    rw [hwithin, if_pos hi]
    rfl
  · congr 1
    · rw [picked_congr (g := fun _ => !p (labelOf ((trimStart opening).drop ticks.length))),
        picked_const]
      · cases p (labelOf ((trimStart opening).drop ticks.length)) <;> rfl
      · intro i hi hi'
        rw [hwithin, if_neg (by omega), if_pos (by omega)]
    · refine picked_congr fun i hi _ => ?_
      rw [hwithin, if_neg (by omega), if_neg (by omega)]

/-- **Deleting blocks** deletes them and no others. -/
theorem blocksOfLines_picked (p : List Char → Bool) (ls : List (List Char)) (n : Nat) :
    blocksOfLines none (picked (fun i => !within p (inTwos (fencesFrom n ls)) i) n ls) =
      (blocksOfLines none ls).filter fun b => !p b.label := by
  induction ls using block_induction generalizing n with
  | few ls hls =>
    have hnone (n : Nat) : inTwos (fencesFrom n ls) = [] := by
      rw [← List.length_eq_zero_iff, length_inTwos, length_fencesFrom]
      omega
    have hblocks : blocksOfLines none ls = [] := by
      rw [(blocksOfLines_inTwos (List.drop_zero (l := ls))).1, hnone, List.map_nil]
    rw [hnone]
    simp only [within, List.any_nil, Bool.not_false]
    rw [picked_const, if_pos rfl, hblocks, List.filter_nil]
  | block prose opening inner closing rest hprose hopening hinner hclosing ih =>
    obtain ⟨m, hpicked⟩ := picked_block p n rest hprose hopening hinner hclosing
    have hblocks := blocksOfLines_block hopening hinner hclosing
    rw [hpicked, blocksOfLines_prose hprose, blocksOfLines_prose hprose, hblocks,
      List.filter_cons]
    have hlabel : (Block.between opening inner).label =
        labelOf ((trimStart opening).drop ticks.length) := rfl
    rw [hlabel]
    cases p (labelOf ((trimStart opening).drop ticks.length)) with
    | true => exact ih m
    | false =>
      have hcons : opening :: (inner ++ [closing]) ++
          picked (fun i => !within p (inTwos (fencesFrom m rest)) i) m rest =
            opening :: (inner ++ closing ::
              picked (fun i => !within p (inTwos (fencesFrom m rest)) i) m rest) := by simp
      rw [if_neg (by simp), hcons, hblocks, ih m]
      rfl

/-! ## Texts -/

/-- The lines of the blocks of a text whose label has the property `p`, fence lines included. -/
def linesWithin (p : List Char → Bool) (text : List Char) : List (List Char) :=
  picked (within p (inTwos (fences (lines text)))) 0 (lines text)

/-- A text without these lines. -/
def without (p : List Char → Bool) (text : List Char) : List Char :=
  (picked (fun i => !within p (inTwos (fences (lines text))) i) 0 (lines text)).flatten

variable {p : List Char → Bool} {text : List Char}

theorem lines_without : lines (without p text) =
    picked (fun i => !within p (inTwos (fences (lines text))) i) 0 (lines text) :=
  ((lines_cut text).sublist (picked_sublist ..)).lines_eq

/-- **The blocks that are left** are those with other labels. -/
theorem blocks_without : blocks (without p text) = (blocks text).filter fun b => !p b.label := by
  rw [blocks, lines_without]
  exact blocksOfLines_picked p (lines text) 0

/-- **What is left speaks of the same stages** if the lines that go speak of none. -/
theorem Hints.ofText_without (h : Hints.ofLines (linesWithin p text) = ⟨false, false⟩) :
    Hints.ofText (without p text) = Hints.ofText text := by
  obtain ⟨hvertex, hfragment⟩ := Hints.mk.inj h
  have hany {g : List Char → Bool} (hg : (linesWithin p text).any g = false) :
      (lines (without p text)).any g = (lines text).any g := by
    have hsplit : (lines text).any g =
        ((lines (without p text)).any g || (linesWithin p text).any g) := by
      rw [lines_without]
      exact any_picked g
    rw [hsplit, hg, Bool.or_false]
  rw [Hints.ofText_eq_ofLines, Hints.ofText_eq_ofLines]
  simp only [Hints.ofLines, hany hvertex, hany hfragment]

end Fence

end LiveShader
