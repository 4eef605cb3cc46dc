import LiveShader.Pattern.CharSet

/-!
# Ranges of characters as ranges of bytes

The characters of a range are written in UTF-8 by byte strings of several lengths. `byteStrings`
cuts a range into pieces whose byte strings are exactly the products of one range for every byte,
and lists them in the order of the characters.

Results:
* `cutAt_bounds`, `cut_bounds`: a cut leaves something on both sides, so cutting comes to an end.
-/

namespace LiveShader

/-- The bytes from one to another, both included. -/
structure ByteRange where
  low : Nat
  high : Nat
  deriving DecidableEq, Repr

/-- The bytes that write the character with a number in UTF-8. -/
def charBytes (n : Nat) : List Nat :=
  if n < 0x80 then [n]
  else if n < 0x800 then [0xC0 + n / 64, 0x80 + n % 64]
  else if n < 0x10000 then [0xE0 + n / 4096, 0x80 + n / 64 % 64, 0x80 + n % 64]
  else [0xF0 + n / 262144, 0x80 + n / 4096 % 64, 0x80 + n / 64 % 64, 0x80 + n % 64]

/-- The bytes of a text. -/
def textBytes (cs : List Char) : List Nat :=
  cs.flatMap fun c => charBytes c.toNat

namespace CharRange

/-- Where to cut if the numbers are not in one block of `m`: behind the first block if it is not
complete, else before the last block if that is not. -/
def cutAt (m low high : Nat) : Option Nat :=
  if low / m = high / m then none
  else if low % m ≠ 0 then some (m * (low / m) + (m - 1))
  else if high % m ≠ m - 1 then some (m * (high / m) - 1)
  else none

theorem cutAt_bounds {m low high c : Nat} (hm : 0 < m) (h : low ≤ high)
    (hc : cutAt m low high = some c) : low ≤ c ∧ c < high := by
  unfold cutAt at hc
  have hlt : low / m ≠ high / m → m * (low / m) + m ≤ m * (high / m) := fun hne => by
    have : low / m + 1 ≤ high / m := Nat.lt_of_le_of_ne (Nat.div_le_div_right h) hne
    have := Nat.mul_le_mul_left m this
    rwa [Nat.mul_add, Nat.mul_one] at this
  have hl := Nat.div_add_mod low m
  have hh := Nat.div_add_mod high m
  have hr := Nat.mod_lt low hm
  grind

/-- Where to cut a range of numbers first: where the number of bytes grows, else at a block. -/
def cut (low high : Nat) : Option Nat :=
  if low ≤ 0x7F ∧ 0x7F < high then some 0x7F
  else if low ≤ 0x7FF ∧ 0x7FF < high then some 0x7FF
  else if low ≤ 0xFFFF ∧ 0xFFFF < high then some 0xFFFF
  else if high ≤ 0x7F then none
  else (cutAt 64 low high).or ((cutAt 4096 low high).or (cutAt 262144 low high))

theorem cut_bounds {low high c : Nat} (h : low ≤ high) (hc : cut low high = some c) :
    low ≤ c ∧ c < high := by
  unfold cut at hc
  split at hc
  · simp at hc; omega
  split at hc
  · simp at hc; omega
  split at hc
  · simp at hc; omega
  split at hc
  · simp at hc
  · simp only [Option.or_eq_some_iff] at hc
    rcases hc with hc | ⟨-, hc | ⟨-, hc⟩⟩
    · exact cutAt_bounds (by decide) h hc
    · exact cutAt_bounds (by decide) h hc
    · exact cutAt_bounds (by decide) h hc

/-- A range of numbers, cut until no cut is left. -/
def pieces (low high : Nat) : List (Nat × Nat) :=
  if _h : high < low then []
  else
    match _hc : cut low high with
    | none => [(low, high)]
    | some c => pieces low c ++ pieces (c + 1) high
termination_by high - low
decreasing_by
  · have := cut_bounds (by omega) _hc
    omega
  · have := cut_bounds (by omega) _hc
    omega

/-- The numbers of the characters of a range: those that belong to no character are left out. -/
def numbers (r : CharRange) : List (Nat × Nat) :=
  let low := r.low.toNat
  let high := r.high.toNat
  if low < 0xE000 ∧ 0xD7FF < high then pieces low 0xD7FF ++ pieces 0xE000 high
  else pieces low high

/-- The byte strings of the characters of a range. -/
def byteStrings (r : CharRange) : List (List ByteRange) :=
  r.numbers.map fun (low, high) => (charBytes low).zipWith .mk (charBytes high)

end CharRange

end LiveShader
