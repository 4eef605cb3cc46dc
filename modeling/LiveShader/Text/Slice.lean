import LiveShader.Text.Search

/-!
# Pieces of a text by bytes

A place in a text is given by the number of bytes before it. Not every number is a place: it may
point into a character, or behind the end. `cutAt?` cuts a text at a place, and `slice?` takes the
piece between two places; both give nothing where there is no place to cut.

Results:
* `cutAt?_eq_some_iff`: a text is cut in two exactly at its places.
* `slice?_eq_some_iff`: which piece a slice is, and when there is one.
-/

namespace LiveShader.Text

/-- A text cut behind its first bytes, `n` of them. -/
def cutAt? : List Char → Nat → Option (List Char × List Char)
  | cs, 0 => some ([], cs)
  | [], _ + 1 => none
  | c :: cs, n + 1 =>
    if c.utf8Size ≤ n + 1 then (cutAt? cs (n + 1 - c.utf8Size)).map fun p => (c :: p.1, p.2)
    else none

/-- The piece of a text between two places, given by the bytes before each. -/
def slice? (text : List Char) (start stop : Nat) : Option (List Char) :=
  (cutAt? text stop).bind fun front => (cutAt? front.1 start).map Prod.snd

@[simp] theorem byteLength_append (a b : List Char) :
    byteLength (a ++ b) = byteLength a + byteLength b := by
  induction a with
  | nil => simp [byteLength]
  | cons c a ih => simp [byteLength, ih, Nat.add_assoc]

theorem cutAt?_eq_some_iff {text a b : List Char} {n : Nat} :
    cutAt? text n = some (a, b) ↔ text = a ++ b ∧ byteLength a = n := by
  induction text generalizing n a with
  | nil =>
    cases n with
    | zero =>
      cases a with
      | nil => simp [cutAt?, byteLength, eq_comm]
      | cons d a => simp [cutAt?]
    | succ n => cases a <;> simp [cutAt?, byteLength]
  | cons c cs ih =>
    have hc := c.utf8Size_pos
    cases n with
    | zero =>
      cases a with
      | nil => simp [cutAt?, byteLength, eq_comm]
      | cons d a =>
        have hd := d.utf8Size_pos
        simp only [cutAt?, byteLength, Option.some.injEq, Prod.mk.injEq, reduceCtorEq, false_and,
          false_iff, not_and]
        omega
    | succ n =>
      rw [cutAt?]
      split
      · rw [Option.map_eq_some_iff]
        constructor
        · rintro ⟨⟨a', b'⟩, h, heq⟩
          obtain ⟨rfl, rfl⟩ : c :: a' = a ∧ b' = b := by simpa using heq
          obtain ⟨rfl, hlen⟩ := ih.mp h
          exact ⟨rfl, by rw [byteLength]; omega⟩
        · rintro ⟨htext, hlen⟩
          cases a with
          | nil => simp [byteLength] at hlen
          | cons d a =>
            obtain ⟨rfl, rfl⟩ : c = d ∧ cs = a ++ b := by simpa using htext
            rw [byteLength] at hlen
            exact ⟨(a, b), ih.mpr ⟨rfl, by omega⟩, rfl⟩
      · simp only [reduceCtorEq, false_iff, not_and]
        intro htext hlen
        cases a with
        | nil => simp [byteLength] at hlen
        | cons d a =>
          obtain ⟨rfl, -⟩ : c = d ∧ cs = a ++ b := by simpa using htext
          rw [byteLength] at hlen
          omega

/-- There is a piece between two numbers exactly if both are places of the text, in this order. -/
theorem slice?_eq_some_iff {text piece : List Char} {start stop : Nat} :
    slice? text start stop = some piece ↔ ∃ before after, text = before ++ piece ++ after ∧
      byteLength before = start ∧ byteLength (before ++ piece) = stop := by
  rw [slice?, Option.bind_eq_some_iff]
  constructor
  · rintro ⟨⟨front, after⟩, hcut, hpiece⟩
    obtain ⟨⟨before, piece⟩, hcut', rfl⟩ := Option.map_eq_some_iff.mp hpiece
    obtain ⟨rfl, hstop⟩ := cutAt?_eq_some_iff.mp hcut
    obtain ⟨rfl, hstart⟩ := cutAt?_eq_some_iff.mp hcut'
    exact ⟨before, after, rfl, hstart, hstop⟩
  · rintro ⟨before, after, rfl, hstart, hstop⟩
    refine ⟨(before ++ piece, after), cutAt?_eq_some_iff.mpr ⟨rfl, hstop⟩, ?_⟩
    exact Option.map_eq_some_iff.mpr ⟨(before, piece), cutAt?_eq_some_iff.mpr ⟨rfl, hstart⟩, rfl⟩

/-- A piece of a text stands where it is. -/
theorem slice?_append (before piece after : List Char) :
    slice? (before ++ piece ++ after) (byteLength before) (byteLength (before ++ piece)) =
      some piece :=
  slice?_eq_some_iff.mpr ⟨before, after, rfl, rfl, rfl⟩

end LiveShader.Text
