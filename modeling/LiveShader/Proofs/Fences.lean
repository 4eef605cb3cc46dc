import LiveShader.Fence.Block

/-!
# Where the blocks of a text are

`Fence.blocks` finds blocks with one pass over the lines and remembers which block is open.
`Fence.IsBlock` says where a block is by its place alone: its fence lines are neighbours among the
fence lines, and an even number of fence lines stands before them.

Results:
* `Fence.blocks_getElem?`: the pass finds exactly the blocks that are there, each at its number.
-/

namespace LiveShader.Fence

open LiveShader.Text

/-! ## Places -/

/-- Whether a line starts, after blanks, with three backticks. -/
def isFence (line : List Char) : Bool :=
  ticks.isPrefixOf (trimStart line)

/-- The block between two fence lines: the label comes from the first one, the body from the lines
in between. -/
def Block.between (opening : List Char) (inner : List (List Char)) : Block :=
  ⟨labelOf ((trimStart opening).drop ticks.length), trim inner.flatten⟩

/-- A block between two fence lines that have no other in between, and `n` others before them. -/
def FencedAt (ls : List (List Char)) (n : Nat) (b : Block) : Prop :=
  ∃ before opening inner closing after, ls = before ++ opening :: (inner ++ closing :: after) ∧
    before.countP isFence = n ∧ isFence opening = true ∧ (∀ l ∈ inner, isFence l = false) ∧
    isFence closing = true ∧ b = .between opening inner

/-- The `k`-th block of a text, counted from zero. -/
def IsBlock (text : List Char) (k : Nat) (b : Block) : Prop :=
  FencedAt (lines text) (2 * k) b

/-! ## One line more -/

variable {line : List Char} {rest : List (List Char)} {n k : Nat} {b : Block}

/-! ### What the pass does with it -/

theorem fence?_of_isFence (h : isFence line = true) :
    fence? line = some ((trimStart line).drop ticks.length) :=
  if_pos h

theorem fence?_of_not_isFence (h : isFence line = false) : fence? line = none :=
  if_neg (by rw [isFence] at h; simp [h])

variable {label : List Char} {body : List (List Char)}

theorem blocksOfLines_outside (h : isFence line = false) :
    blocksOfLines none (line :: rest) = blocksOfLines none rest := by
  simp only [blocksOfLines, fence?_of_not_isFence h]

theorem blocksOfLines_open (h : isFence line = true) :
    blocksOfLines none (line :: rest) =
      blocksOfLines (some (labelOf ((trimStart line).drop ticks.length), [])) rest := by
  simp only [blocksOfLines, fence?_of_isFence h]

theorem blocksOfLines_inside (h : isFence line = false) :
    blocksOfLines (some (label, body)) (line :: rest) =
      blocksOfLines (some (label, line :: body)) rest := by
  simp only [blocksOfLines, fence?_of_not_isFence h]

theorem blocksOfLines_close (h : isFence line = true) :
    blocksOfLines (some (label, body)) (line :: rest) =
      ⟨label, trim body.reverse.flatten⟩ :: blocksOfLines none rest := by
  simp only [blocksOfLines, fence?_of_isFence h]

/-! ### What the pass does with more lines -/

/-- Lines between blocks are passed over. -/
theorem blocksOfLines_prose {prose : List (List Char)} (h : ∀ l ∈ prose, isFence l = false)
    (rest : List (List Char)) : blocksOfLines none (prose ++ rest) = blocksOfLines none rest := by
  induction prose with
  | nil => rfl
  | cons line prose ih =>
    obtain ⟨hline, hprose⟩ := List.forall_mem_cons.mp h
    rw [List.cons_append, blocksOfLines_outside hline, ih hprose]

/-- Lines inside a block belong to its body. -/
theorem blocksOfLines_body {inner : List (List Char)} (h : ∀ l ∈ inner, isFence l = false)
    (rest : List (List Char)) : blocksOfLines (some (label, body)) (inner ++ rest) =
      blocksOfLines (some (label, inner.reverse ++ body)) rest := by
  induction inner generalizing body with
  | nil => rfl
  | cons line inner ih =>
    obtain ⟨hline, hinner⟩ := List.forall_mem_cons.mp h
    rw [List.cons_append, blocksOfLines_inside hline, ih hinner, List.reverse_cons,
      List.append_assoc]
    rfl

/-- Two fence lines with no other in between are a block. -/
theorem blocksOfLines_block {opening closing : List Char} {inner : List (List Char)}
    (hopening : isFence opening = true) (hinner : ∀ l ∈ inner, isFence l = false)
    (hclosing : isFence closing = true) (rest : List (List Char)) :
    blocksOfLines none (opening :: (inner ++ closing :: rest)) =
      .between opening inner :: blocksOfLines none rest := by
  rw [blocksOfLines_open hopening, blocksOfLines_body hinner, blocksOfLines_close hclosing,
    List.append_nil, List.reverse_reverse]
  rfl

/-! ### What becomes of the places -/

/-- A line between blocks is passed over. -/
theorem fencedAt_cons_of_not (h : isFence line = false) :
    FencedAt (line :: rest) n b ↔ FencedAt rest n b := by
  constructor
  · rintro ⟨before, opening, inner, closing, after, hls, hn, hopening, hrest⟩
    cases before with
    | nil =>
      obtain ⟨rfl, -⟩ := List.cons_eq_cons.mp hls
      simp [h] at hopening
    | cons l before =>
      obtain ⟨rfl, htail⟩ := List.cons_eq_cons.mp hls
      refine ⟨before, opening, inner, closing, after, htail, ?_, hopening, hrest⟩
      simpa [h] using hn
  · rintro ⟨before, opening, inner, closing, after, rfl, hn, hrest⟩
    exact ⟨line :: before, opening, inner, closing, after, rfl, by simpa [h] using hn, hrest⟩

/-- A fence line counts for the blocks behind it. -/
theorem fencedAt_cons_succ (h : isFence line = true) :
    FencedAt (line :: rest) (n + 1) b ↔ FencedAt rest n b := by
  constructor
  · rintro ⟨before, opening, inner, closing, after, hls, hn, hrest⟩
    cases before with
    | nil => simp at hn
    | cons l before =>
      obtain ⟨rfl, htail⟩ := List.cons_eq_cons.mp hls
      exact ⟨before, opening, inner, closing, after, htail, by simpa [h] using hn, hrest⟩
  · rintro ⟨before, opening, inner, closing, after, rfl, hn, hrest⟩
    exact ⟨line :: before, opening, inner, closing, after, rfl, by simp [h, hn], hrest⟩

/-- A block whose first lines, the last one first, are `body`, and whose end is still to come. -/
def ClosedBy (ls : List (List Char)) (label : List Char) (body : List (List Char)) (b : Block) :
    Prop :=
  ∃ inner closing after, ls = inner ++ closing :: after ∧ (∀ l ∈ inner, isFence l = false) ∧
    isFence closing = true ∧ b = ⟨label, trim (body.reverse ++ inner).flatten⟩

/-- A fence line with none before it opens a block. -/
theorem fencedAt_cons_zero (h : isFence line = true) :
    FencedAt (line :: rest) 0 b ↔
      ClosedBy rest (labelOf ((trimStart line).drop ticks.length)) [] b := by
  constructor
  · rintro ⟨before, opening, inner, closing, after, hls, hn, -, hrest⟩
    cases before with
    | nil =>
      obtain ⟨rfl, htail⟩ := List.cons_eq_cons.mp hls
      exact ⟨inner, closing, after, htail, hrest⟩
    | cons l before =>
      obtain ⟨rfl, -⟩ := List.cons_eq_cons.mp hls
      simp [h] at hn
  · rintro ⟨inner, closing, after, rfl, hrest⟩
    exact ⟨[], line, inner, closing, after, rfl, rfl, h, hrest⟩

/-- A line inside a block belongs to its body. -/
theorem closedBy_cons_of_not (h : isFence line = false) :
    ClosedBy (line :: rest) label body b ↔ ClosedBy rest label (line :: body) b := by
  constructor
  · rintro ⟨inner, closing, after, hls, hinner, hclosing, rfl⟩
    cases inner with
    | nil =>
      obtain ⟨rfl, -⟩ := List.cons_eq_cons.mp hls
      simp [h] at hclosing
    | cons l inner =>
      obtain ⟨rfl, htail⟩ := List.cons_eq_cons.mp hls
      exact ⟨inner, closing, after, htail, fun l hl => hinner l (List.mem_cons_of_mem _ hl),
        hclosing, by simp⟩
  · rintro ⟨inner, closing, after, rfl, hinner, hclosing, rfl⟩
    exact ⟨line :: inner, closing, after, rfl, List.forall_mem_cons.mpr ⟨h, hinner⟩, hclosing,
      by simp⟩

/-- A fence line inside a block closes it. -/
theorem closedBy_cons_fence (h : isFence line = true) :
    ClosedBy (line :: rest) label body b ↔ b = ⟨label, trim body.reverse.flatten⟩ := by
  constructor
  · rintro ⟨inner, closing, after, hls, hinner, hclosing, rfl⟩
    cases inner with
    | nil => simp
    | cons l inner =>
      obtain ⟨rfl, -⟩ := List.cons_eq_cons.mp hls
      simp [h] at hinner
  · rintro rfl
    exact ⟨[], line, rest, rfl, by simp, h, by simp⟩

/-! ## The pass over the lines -/

theorem not_fencedAt_nil : ¬ FencedAt [] n b := by
  rintro ⟨before, opening, inner, closing, after, hls, -⟩
  simp at hls

theorem not_closedBy_nil : ¬ ClosedBy [] label body b := by
  rintro ⟨inner, closing, after, hls, -⟩
  simp at hls

/-- What the pass finds, between blocks and inside of one. Inside, the fence line to come is an odd
one, and closes the block. -/
theorem blocksOfLines_getElem? (ls : List (List Char)) :
    (∀ k b, (blocksOfLines none ls)[k]? = some b ↔ FencedAt ls (2 * k) b) ∧
      ∀ label body k b, (blocksOfLines (some (label, body)) ls)[k]? = some b ↔
        k = 0 ∧ ClosedBy ls label body b ∨ ∃ n, n + 1 = 2 * k ∧ FencedAt ls n b := by
  induction ls with
  | nil => simp [blocksOfLines, not_fencedAt_nil, not_closedBy_nil]
  | cons line rest ih =>
    obtain ⟨ihnone, ihsome⟩ := ih
    refine ⟨fun k b => ?_, fun label body k b => ?_⟩
    · cases h : isFence line with
      | false =>
        rw [blocksOfLines_outside h, fencedAt_cons_of_not h]
        exact ihnone k b
      | true =>
        rw [blocksOfLines_open h, ihsome]
        cases k with
        | zero => simp [fencedAt_cons_zero h]
        | succ k =>
          have hsucc : 2 * (k + 1) = (2 * k + 1) + 1 := by omega
          rw [hsucc, fencedAt_cons_succ h]
          simp
    · cases h : isFence line with
      | false =>
        rw [blocksOfLines_inside h, ihsome]
        simp only [closedBy_cons_of_not h, fencedAt_cons_of_not h]
      | true =>
        rw [blocksOfLines_close h, closedBy_cons_fence h]
        cases k with
        | zero => simp [eq_comm]
        | succ k =>
          rw [List.getElem?_cons_succ, ihnone]
          have hn (n : Nat) : n + 1 = 2 * (k + 1) ↔ n = 2 * k + 1 := by omega
          simp [hn, fencedAt_cons_succ h]

/-- **The pass finds exactly the blocks that are there**, each at its number. -/
theorem blocks_getElem? (text : List Char) (k : Nat) (b : Block) :
    (blocks text)[k]? = some b ↔ IsBlock text k b :=
  (blocksOfLines_getElem? (lines text)).1 k b

end LiveShader.Fence
