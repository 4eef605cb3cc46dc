import LiveShader.Fence.Scan
import LiveShader.Proofs.Fences
import Mathlib.Data.List.Basic

/-!
# Blocks by their fence lines

A text is cut into lines after each line feed. Among the lines are the fence lines, and these taken
in twos, in order, are the blocks: the first of two carries the label, and what stands between the
two is the body. One line that is left over opens nothing.

* `fences` are the fence lines with their numbers, and `inTwos` takes a list in twos.
* The pass that collects the lines of a block and the scan that counts bytes both follow the lines,
  so each is compared with `inTwos` by one induction over the lines that are left, for a start
  between blocks and for one inside of a block.

Results:
* `Text.lines_cut`, `Text.CutAfterFeeds.lines_eq`: the lines of a text are the text cut after each
  line feed, and there is one such cut only.
* `Text.lines_append`: lines of texts of whole lines, one after the other.
* `blocks_eq`, `spans_eq`: what the pass and the scan find.
* `scan_blocks`: the scan never fails, it cuts at the starts of lines, and it gives the blocks.
-/

namespace LiveShader

/-! ## Lines -/

namespace Text

/-- A text is cut after each line feed, and nowhere else. -/
structure CutAfterFeeds (text : List Char) (ls : List (List Char)) : Prop where
  joined : ls.flatten = text
  nonempty : ∀ l ∈ ls, l ≠ []
  nowhere_else : ∀ l ∈ ls, '\n' ∉ l.dropLast
  after_feed : ∀ l ∈ ls.dropLast, l.getLast? = some '\n'

variable {cs l : List Char} {ls : List (List Char)}

/-- A line feed is a line of its own in front of the others. -/
theorem CutAfterFeeds.feed (h : CutAfterFeeds cs ls) :
    CutAfterFeeds ('\n' :: cs) (['\n'] :: ls) where
  joined := by simp [h.joined]
  nonempty := by simpa using h.nonempty
  nowhere_else := by simpa using h.nowhere_else
  after_feed := by
    cases ls with
    | nil => simp
    | cons l ls => simpa using h.after_feed

/-- Any other character belongs to the first line. -/
theorem CutAfterFeeds.cons (h : CutAfterFeeds cs (l :: ls)) {c : Char} (hc : c ≠ '\n') :
    CutAfterFeeds (c :: cs) ((c :: l) :: ls) := by
  obtain ⟨hl, hls⟩ := List.forall_mem_cons.mp h.nonempty
  obtain ⟨hinner, hinners⟩ := List.forall_mem_cons.mp h.nowhere_else
  refine ⟨by simp [← h.joined], by simpa using hls, ?_, ?_⟩
  · refine List.forall_mem_cons.mpr ⟨?_, hinners⟩
    rw [List.dropLast_cons_of_ne_nil hl, List.mem_cons, not_or]
    exact ⟨hc.symm, hinner⟩
  · have hfeed := h.after_feed
    cases ls with
    | nil => simp
    | cons l' ls =>
      rw [List.dropLast_cons_of_ne_nil (by simp)] at hfeed ⊢
      obtain ⟨hlast, hlasts⟩ := List.forall_mem_cons.mp hfeed
      refine List.forall_mem_cons.mpr ⟨?_, hlasts⟩
      rw [List.getLast?_cons, hlast]
      rfl

theorem lines_cut (text : List Char) : CutAfterFeeds text (lines text) := by
  induction text with
  | nil => exact ⟨rfl, by simp [lines], by simp [lines], by simp [lines]⟩
  | cons c cs ih =>
    rw [lines]
    split
    · next hc =>
      subst hc
      exact ih.feed
    · next hc =>
      cases h : lines cs with
      | nil =>
        obtain rfl : cs = [] := by rw [← flatten_lines cs, h, List.flatten_nil]
        exact ⟨rfl, by simp, by simp, by simp⟩
      | cons l ls => exact (h ▸ ih).cons hc

variable {a : List Char} {ls' : List (List Char)}

/-- Text without a line feed goes on with the line feed behind it, as one line. -/
theorem lines_append_feed (ha : '\n' ∉ a) (rest : List Char) :
    lines (a ++ '\n' :: rest) = (a ++ ['\n']) :: lines rest := by
  induction a with
  | nil => simp [lines]
  | cons c a ih =>
    obtain ⟨hc, ha⟩ := not_or.mp (List.mem_cons.not.mp ha)
    rw [List.cons_append, lines, if_neg (Ne.symm hc), ih ha]
    rfl

/-- Text without a line feed is one line. -/
theorem lines_of_not_mem (hne : a ≠ []) (ha : '\n' ∉ a) : lines a = [a] := by
  induction a with
  | nil => exact absurd rfl hne
  | cons c a ih =>
    obtain ⟨hc, ha⟩ := not_or.mp (List.mem_cons.not.mp ha)
    rw [lines, if_neg (Ne.symm hc)]
    cases a with
    | nil => rfl
    | cons d a => rw [ih (by simp) ha]

/-- There is one way only to cut a text after each line feed. -/
theorem CutAfterFeeds.lines_eq (h : CutAfterFeeds cs ls) : lines cs = ls := by
  obtain ⟨rfl, hne, helse, hfeed⟩ := h
  induction ls with
  | nil => rfl
  | cons l ls ih =>
    obtain ⟨hl, hls⟩ := List.forall_mem_cons.mp hne
    obtain ⟨hinner, hinners⟩ := List.forall_mem_cons.mp helse
    by_cases hlast : l.getLast? = some '\n'
    · obtain ⟨a, rfl⟩ := List.getLast?_eq_some_iff.mp hlast
      rw [List.dropLast_concat] at hinner
      have hfeeds : ∀ l ∈ ls.dropLast, l.getLast? = some '\n' := by
        cases ls with
        | nil => simp
        | cons l' ls =>
          rw [List.dropLast_cons_of_ne_nil (by simp)] at hfeed
          exact (List.forall_mem_cons.mp hfeed).2
      rw [List.flatten_cons, List.append_assoc, List.singleton_append, lines_append_feed hinner,
        ih hls hinners hfeeds]
    · -- only the last line may lack its line feed
      cases ls with
      | cons l' ls => exact absurd (hfeed l (by simp)) hlast
      | nil =>
        have hmem : '\n' ∉ l := by
          rw [← List.dropLast_append_getLast hl, List.mem_append, not_or]
          refine ⟨hinner, fun hmem => hlast ?_⟩
          rw [List.getLast?_eq_some_getLast hl, ← List.mem_singleton.mp hmem]
        rw [List.flatten_singleton, lines_of_not_mem hl hmem]

/-- Lines that are picked from a text are the lines of what they make together. -/
theorem CutAfterFeeds.sublist (h : CutAfterFeeds cs ls) (hls : ls'.Sublist ls) :
    CutAfterFeeds ls'.flatten ls' where
  joined := rfl
  nonempty l hl := h.nonempty l (hls.subset hl)
  nowhere_else l hl := h.nowhere_else l (hls.subset hl)
  after_feed l hl := by
    have hdrop : ls'.dropLast.Sublist ls.dropLast := by
      rw [← List.reverse_sublist, ← List.tail_reverse, ← List.tail_reverse]
      exact hls.reverse.tail
    exact h.after_feed l (hdrop.subset hl)

/-- A text that is empty or ends in a line feed keeps its lines, whatever follows. -/
theorem lines_append (ha : a = [] ∨ a.getLast? = some '\n') (b : List Char) :
    lines (a ++ b) = lines a ++ lines b := by
  induction a with
  | nil => rfl
  | cons c a ih =>
    rw [List.cons_append, lines, lines]
    by_cases hc : c = '\n'
    · have ha' : a = [] ∨ a.getLast? = some '\n' := by
        cases a with
        | nil => exact .inl rfl
        | cons d a => simpa using ha
      rw [if_pos hc, if_pos hc, ih ha', List.cons_append]
    · have hne : a ≠ [] := by
        rintro rfl
        simp [hc] at ha
      have ha' : a.getLast? = some '\n' := by
        obtain ⟨d, a, rfl⟩ := List.exists_cons_of_ne_nil hne
        simpa using ha
      rw [if_neg hc, if_neg hc, ih (.inr ha')]
      cases hl : lines a with
      | nil => exact absurd (by rw [← flatten_lines a, hl, List.flatten_nil]) hne
      | cons l ls => rfl

/-- What stands before a line of a text is empty or ends in a line feed. -/
theorem CutAfterFeeds.before (h : CutAfterFeeds cs (ls ++ l :: ls')) :
    ls.flatten = [] ∨ ls.flatten.getLast? = some '\n' := by
  rcases List.eq_nil_or_concat ls with rfl | ⟨ls, k, rfl⟩
  · exact .inl rfl
  · have hk := h.after_feed k (by simp)
    obtain ⟨a, rfl⟩ := List.getLast?_eq_some_iff.mp hk
    exact .inr (by simp)

end Text

namespace Fence

open LiveShader.Text

/-! ## Fence lines in twos -/

/-- The fence lines among lines, each with its number; the first line has the number `n`. -/
def fencesFrom (n : Nat) (ls : List (List Char)) : List (List Char × Nat) :=
  (ls.zipIdx n).filter fun line => isFence line.1

/-- The fence lines among lines, each with its number. -/
def fences (ls : List (List Char)) : List (List Char × Nat) :=
  fencesFrom 0 ls

/-- The members of a list in twos; one that is left over is dropped. -/
def inTwos {α : Type} : List α → List (α × α)
  | [] | [_] => []
  | a :: b :: l => (a, b) :: inTwos l

theorem length_inTwos {α : Type} (l : List α) : (inTwos l).length = l.length / 2 := by
  fun_induction inTwos l with
  | case1 | case2 => simp
  | case3 a b l ih =>
    simp only [List.length_cons, ih]
    omega

theorem getElem?_inTwos {α : Type} (l : List α) (k : Nat) :
    (inTwos l)[k]? = l[2 * k]?.bind fun a => l[2 * k + 1]?.map fun b => (a, b) := by
  fun_induction inTwos l generalizing k with
  | case1 => simp
  | case2 a => cases k <;> simp
  | case3 a b l ih =>
    cases k with
    | zero => rfl
    | succ k =>
      have hk : 2 * (k + 1) = 2 * k + 1 + 1 := by omega
      rw [hk, List.getElem?_cons_succ, ih]
      rfl

/-- Two that are taken together are neighbours. -/
theorem infix_of_mem_inTwos {α : Type} {l : List α} {p : α × α} (h : p ∈ inTwos l) :
    [p.1, p.2] <:+: l := by
  fun_induction inTwos l with
  | case1 | case2 => cases h
  | case3 a b l ih =>
    rcases List.mem_cons.mp h with rfl | h
    · exact ⟨[], l, rfl⟩
    · exact (ih h).trans ⟨[a, b], [], by simp⟩

variable {line : List Char} {rest all : List (List Char)} {n : Nat}

theorem fencesFrom_cons_of_not (h : isFence line = false) :
    fencesFrom n (line :: rest) = fencesFrom (n + 1) rest := by
  simp [fencesFrom, h]

theorem fencesFrom_cons (h : isFence line = true) :
    fencesFrom n (line :: rest) = (line, n) :: fencesFrom (n + 1) rest := by
  simp [fencesFrom, h]

/-- Fence lines are numbered in order. -/
theorem pairwise_fences (ls : List (List Char)) : (fences ls).Pairwise fun a b => a.2 < b.2 := by
  refine List.Pairwise.filter _ (List.pairwise_map.mp ?_)
  rw [List.zipIdx_map_snd]
  exact List.pairwise_lt_range'

theorem mem_fences {ls : List (List Char)} {f : List Char × Nat} :
    f ∈ fences ls ↔ ls[f.2]? = some f.1 ∧ isFence f.1 = true := by
  rw [fences, fencesFrom, List.mem_filter, List.mem_zipIdx_iff_getElem?]

/-! ## What the pass finds -/

/-- The block between two fence lines of a text. -/
def blockBetween (ls : List (List Char)) (p : (List Char × Nat) × (List Char × Nat)) : Block :=
  .between p.1.1 ((ls.take p.2.2).drop (p.1.2 + 1))

/-- What is left of lines, and what was before, one line later. -/
theorem drop_succ_of_drop {n : Nat} (h : all.drop n = line :: rest) :
    all.drop (n + 1) = rest ∧ all.take (n + 1) = all.take n ++ [line] ∧ n < all.length := by
  have hn : n < all.length := by
    by_contra hge
    simp [List.drop_eq_nil_of_le (Nat.le_of_not_lt hge)] at h
  rw [List.drop_eq_getElem_cons hn, List.cons.injEq] at h
  refine ⟨h.2, ?_, hn⟩
  rw [List.take_succ_eq_append_getElem hn, h.1]

/-- The pass over the lines from the `n`-th on, between blocks and inside of one that the line with
the number `k` has opened. -/
theorem blocksOfLines_inTwos (h : all.drop n = rest) :
    blocksOfLines none rest = (inTwos (fencesFrom n rest)).map (blockBetween all) ∧
      ∀ opening k body, k < n → body.reverse = (all.take n).drop (k + 1) →
        blocksOfLines (some (labelOf ((trimStart opening).drop ticks.length), body)) rest =
          (inTwos ((opening, k) :: fencesFrom n rest)).map (blockBetween all) := by
  induction rest generalizing n with
  | nil => exact ⟨rfl, fun _ _ _ _ _ => rfl⟩
  | cons line rest ih =>
    obtain ⟨hdrop, htake, hn⟩ := drop_succ_of_drop h
    obtain ⟨ihnone, ihsome⟩ := ih hdrop
    have hlen : (all.take n).length = n := by
      rw [List.length_take]
      omega
    cases hline : isFence line with
    | false =>
      rw [fencesFrom_cons_of_not hline, blocksOfLines_outside hline]
      refine ⟨ihnone, fun opening k body hk hbody => ?_⟩
      rw [blocksOfLines_inside hline]
      refine ihsome opening k (line :: body) (Nat.lt_succ_of_lt hk) ?_
      rw [List.reverse_cons, hbody, htake, List.drop_append_of_le_length (by omega)]
    | true =>
      rw [fencesFrom_cons hline, blocksOfLines_open hline]
      refine ⟨ihsome line n [] (Nat.lt_succ_self n) ?_, fun opening k body hk hbody => ?_⟩
      · rw [List.reverse_nil, List.drop_eq_nil_of_le]
        rw [List.length_take]
        omega
      · rw [blocksOfLines_close hline, hbody, ihnone, inTwos, List.map_cons]
        rfl

/-- **The blocks of a text** are its fence lines in twos. -/
theorem blocks_eq (text : List Char) :
    blocks text = (inTwos (fences (lines text))).map (blockBetween (lines text)) :=
  (blocksOfLines_inTwos List.drop_zero).1

/-! ## What the scan finds -/

/-- The bytes before the line with the number `i`. -/
def bytesBefore (ls : List (List Char)) (i : Nat) : Nat :=
  byteLength (ls.take i).flatten

/-- The lines up to one place are those up to an earlier place and those in between. -/
theorem take_append_drop_take (ls : List (List Char)) {i j : Nat} (h : i ≤ j) :
    ls.take i ++ (ls.take j).drop i = ls.take j := by
  have htake : (ls.take j).take i = ls.take i := by rw [List.take_take, Nat.min_eq_left h]
  rw [← htake, List.take_append_drop]

theorem bytesBefore_mono (ls : List (List Char)) {i j : Nat} (h : i ≤ j) :
    bytesBefore ls i ≤ bytesBefore ls j := by
  rw [bytesBefore, bytesBefore, ← take_append_drop_take ls h, List.flatten_append,
    byteLength_append]
  exact Nat.le_add_right _ _

/-- The span between two fence lines of a text. -/
def spanBetween (ls : List (List Char)) (p : (List Char × Nat) × (List Char × Nat)) : Span :=
  ⟨labelOf ((trimStart p.1.1).drop ticks.length), bytesBefore ls (p.1.2 + 1), bytesBefore ls p.2.2⟩

/-! ### One line more -/

variable {opened : Option (List Char × Nat)} {label : List Char} {offset start : Nat}

theorem spansOfLines_skip (h : isFence line = false) :
    spansOfLines opened offset (line :: rest) =
      spansOfLines opened (offset + byteLength line) rest := by
  simp only [spansOfLines, fence?_of_not_isFence h]

theorem spansOfLines_open (h : isFence line = true) :
    spansOfLines none offset (line :: rest) =
      spansOfLines (some (labelOf ((trimStart line).drop ticks.length), offset + byteLength line))
        (offset + byteLength line) rest := by
  simp only [spansOfLines, fence?_of_isFence h]

theorem spansOfLines_close (h : isFence line = true) :
    spansOfLines (some (label, start)) offset (line :: rest) =
      ⟨label, start, offset⟩ :: spansOfLines none (offset + byteLength line) rest := by
  simp only [spansOfLines, fence?_of_isFence h]

/-- The scan of the lines from the `n`-th on, between blocks and inside of one that the line with
the number `k` has opened. -/
theorem spansOfLines_inTwos (h : all.drop n = rest) :
    spansOfLines none (bytesBefore all n) rest =
        (inTwos (fencesFrom n rest)).map (spanBetween all) ∧
      ∀ opening k, spansOfLines (some (labelOf ((trimStart opening).drop ticks.length),
          bytesBefore all (k + 1))) (bytesBefore all n) rest =
        (inTwos ((opening, k) :: fencesFrom n rest)).map (spanBetween all) := by
  induction rest generalizing n with
  | nil => exact ⟨rfl, fun _ _ => rfl⟩
  | cons line rest ih =>
    obtain ⟨hdrop, htake, -⟩ := drop_succ_of_drop h
    obtain ⟨ihnone, ihsome⟩ := ih hdrop
    have hnext : bytesBefore all n + byteLength line = bytesBefore all (n + 1) := by
      simp [bytesBefore, htake]
    cases hline : isFence line with
    | false =>
      rw [fencesFrom_cons_of_not hline, spansOfLines_skip hline, hnext]
      refine ⟨ihnone, fun opening k => ?_⟩
      rw [spansOfLines_skip hline, hnext]
      exact ihsome opening k
    | true =>
      rw [fencesFrom_cons hline, spansOfLines_open hline, hnext]
      refine ⟨ihsome line n, fun opening k => ?_⟩
      rw [spansOfLines_close hline, hnext, ihnone]
      rfl

/-- **The spans of a text** are its fence lines in twos. -/
theorem spans_eq (text : List Char) :
    spans text = (inTwos (fences (lines text))).map (spanBetween (lines text)) :=
  (spansOfLines_inTwos List.drop_zero).1

/-- Of two fence lines that are taken together the first one comes first. -/
theorem order_of_mem_inTwos {ls : List (List Char)} {p : (List Char × Nat) × (List Char × Nat)}
    (h : p ∈ inTwos (fences ls)) : p.1.2 < p.2.2 ∧ p.2.2 < ls.length := by
  have hpair := infix_of_mem_inTwos h
  refine ⟨?_, ?_⟩
  · simpa using (pairwise_fences ls).sublist hpair.sublist
  · have hmem := (mem_fences.mp (hpair.subset (by simp : p.2 ∈ [p.1, p.2]))).1
    exact (List.getElem?_eq_some_iff.mp hmem).1

/-- A block is cut out of its text between two starts of lines. -/
theorem cut?_spanBetween {text : List Char} {p : (List Char × Nat) × (List Char × Nat)}
    (h : p ∈ inTwos (fences (lines text))) :
    (spanBetween (lines text) p).cut? text = some (blockBetween (lines text) p) := by
  obtain ⟨horder, -⟩ := order_of_mem_inTwos h
  let before := ((lines text).take (p.1.2 + 1)).flatten
  let piece := (((lines text).take p.2.2).drop (p.1.2 + 1)).flatten
  let after := ((lines text).drop p.2.2).flatten
  have hfront : before ++ piece = ((lines text).take p.2.2).flatten := by
    rw [← List.flatten_append, take_append_drop_take _ horder]
  have htext : before ++ piece ++ after = text := by
    rw [hfront, ← List.flatten_append, List.take_append_drop, flatten_lines]
  have hslice := slice?_append before piece after
  rw [htext, hfront] at hslice
  rw [Span.cut?]
  exact congrArg (Option.map _) hslice

/-- A list of questions of which all have answers has a list of answers. -/
theorem mapM_eq_some_map {α β : Type} {l : List α} {f : α → Option β} {g : α → β}
    (h : ∀ a ∈ l, f a = some (g a)) : l.mapM f = some (l.map g) := by
  induction l with
  | nil => rfl
  | cons a l ih =>
    obtain ⟨ha, hl⟩ := List.forall_mem_cons.mp h
    rw [List.mapM_cons, ha, ih hl]
    rfl

/-- The scan finds the blocks. -/
theorem scan_eq (text : List Char) : scan text = some (blocks text) := by
  rw [scan, spans_eq, blocks_eq, List.mapM_map]
  exact mapM_eq_some_map fun p hp => cut?_spanBetween hp

/-- **Blocks by their lines.** A text is cut into lines after each line feed. Among these are the
fence lines, those that start, after blanks, with three backticks.

* The scan that counts bytes never fails. The body of each block lies between two starts of lines,
  the first of which is not behind the second, nor the second behind the end of the text.
* It finds as many blocks as there are pairs of fence lines, a fence line that is left over opening
  none; and these are the blocks that the pass over the lines finds.
* The block with the number `k` is between the fence lines with the numbers `2 * k` and `2 * k + 1`.
  Its label is the first word behind the backticks of the first one, in small letters, and its body
  the lines strictly between the two, trimmed. -/
theorem scan_blocks (text : List Char) :
    let ls := lines text
    let bs := blocks text
    CutAfterFeeds text ls ∧
      (∀ s ∈ spans text, s.start ≤ s.stop ∧ s.stop ≤ byteLength text ∧
        (∃ i < ls.length, s.start = bytesBefore ls i) ∧
        ∃ j < ls.length, s.stop = bytesBefore ls j) ∧
      scan text = some bs ∧ bs.length = (fences ls).length / 2 ∧
      ∀ k opening closing, (fences ls)[2 * k]? = some opening →
        (fences ls)[2 * k + 1]? = some closing →
          bs[k]? = some ⟨lowerAscii (firstWord ((trimStart opening.1).drop ticks.length)),
            trim ((ls.take closing.2).drop (opening.2 + 1)).flatten⟩ := by
  intro ls bs
  refine ⟨lines_cut text, fun s hs => ?_, scan_eq text, ?_, fun k opening closing ho hc => ?_⟩
  · rw [spans_eq, List.mem_map] at hs
    obtain ⟨p, hp, rfl⟩ := hs
    obtain ⟨horder, hlast⟩ := order_of_mem_inTwos hp
    have hlen : bytesBefore ls ls.length = byteLength text := by
      rw [bytesBefore, List.take_length, flatten_lines]
    exact ⟨bytesBefore_mono ls horder, hlen ▸ bytesBefore_mono ls (Nat.le_of_lt hlast),
      ⟨p.1.2 + 1, Nat.lt_of_le_of_lt horder hlast, rfl⟩, p.2.2, hlast, rfl⟩
  · rw [show bs = _ from blocks_eq text, List.length_map, length_inTwos]
  · rw [show bs = _ from blocks_eq text, List.getElem?_map, getElem?_inTwos, ho, hc]
    rfl

end Fence

end LiveShader
