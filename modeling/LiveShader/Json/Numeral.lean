import LiveShader.Json.Problem

/-!
# Numerals and their values

A `Numeral` is a number as written: sign, whole digits, fraction digits, exponent. `Numeral.scan`
takes one from the front of a text by the grammar of JSON; `Numeral.value` gives the number.

* A numeral without fraction and exponent whose digits fit 64 bits is a whole number, unless it is
  negative and either zero or below the least 64-bit integer.
* Any other is a double: as many leading digits as fit 64 bits make the significand, later digits
  count only for the magnitude if they stand before the point, and the significand is scaled by
  one power of ten.

Results:
* `length_after_scan`: a numeral takes at least one character.
-/

namespace LiveShader.Json

/-- A number as written. -/
structure Numeral where
  negative : Bool
  /-- The digits before the point. -/
  whole : List Char
  /-- The digits after the point; none if there is no point. -/
  fraction : List Char
  /-- Whether the exponent is negative, and its digits. -/
  exponent : Option (Bool × List Char)
  deriving DecidableEq, Repr

namespace Numeral

/-! ## Grammar -/

/-- The fault where a digit must come and `rest` stands there. -/
def noDigit (rest : List Char) : Fault :=
  if rest.isEmpty then ⟨.valueCutOff, .invalidNumber⟩ else .both .invalidNumber

/-- One digit or more, and what follows them. -/
def digits (cs : List Char) : Except Fault (List Char × List Char) :=
  match cs.takeWhile Char.isDigit with
  | [] => .error (noDigit cs)
  | ds => .ok (ds, cs.dropWhile Char.isDigit)

/-- The digits before the point: a zero stands alone. -/
def wholePart (cs : List Char) : Except Fault (List Char × List Char) :=
  match digits cs with
  | .error f => .error f
  | .ok ('0' :: _ :: _, _) => .error (.both .invalidNumber)
  | .ok parts => .ok parts

/-- The digits after a point, if there is one. -/
def fractionPart : List Char → Except Fault (List Char × List Char)
  | '.' :: cs => digits cs
  | cs => .ok ([], cs)

/-- A sign, if there is one. -/
def exponentSign : List Char → Bool × List Char
  | '-' :: cs => (true, cs)
  | '+' :: cs => (false, cs)
  | cs => (false, cs)

/-- The exponent, if there is one. -/
def exponentPart : List Char → Except Fault (Option (Bool × List Char) × List Char)
  | 'e' :: cs | 'E' :: cs =>
    let (negative, cs) := exponentSign cs
    (digits cs).map fun (ds, cs) => (some (negative, ds), cs)
  | cs => .ok (none, cs)

/-- A minus sign, if there is one. -/
def minusSign : List Char → Bool × List Char
  | '-' :: cs => (true, cs)
  | cs => (false, cs)

/-- The numeral at the front of a text, and what follows it. -/
def scan (cs : List Char) : Except Fault (Numeral × List Char) := do
  let (negative, cs) := minusSign cs
  let (whole, cs) ← wholePart cs
  let (fraction, cs) ← fractionPart cs
  let (exponent, cs) ← exponentPart cs
  return (⟨negative, whole, fraction, exponent⟩, cs)

theorem length_after_digits {cs ds rest : List Char} (h : digits cs = .ok (ds, rest)) :
    rest.length < cs.length := by
  rw [digits] at h
  split at h
  · simp at h
  · next hne =>
    have hl := congrArg List.length (List.takeWhile_append_dropWhile (p := Char.isDigit) (l := cs))
    have hp := List.length_pos_iff.2 hne
    simp only [Except.ok.injEq, Prod.mk.injEq] at h
    rw [← h.2]
    simp only [List.length_append] at hl
    omega

theorem length_after_wholePart {cs ds rest : List Char} (h : wholePart cs = .ok (ds, rest)) :
    rest.length < cs.length := by
  rw [wholePart] at h
  split at h
  · simp at h
  · simp at h
  · next hd => exact length_after_digits (hd.trans h)

theorem length_after_fractionPart {cs ds rest : List Char}
    (h : fractionPart cs = .ok (ds, rest)) : rest.length ≤ cs.length := by
  unfold fractionPart at h
  split at h
  · have := length_after_digits h
    simp only [List.length_cons]
    omega
  · simp only [Except.ok.injEq, Prod.mk.injEq] at h
    simp [h.2]

theorem length_exponentSign (cs : List Char) : (exponentSign cs).2.length ≤ cs.length := by
  unfold exponentSign
  split <;> simp

theorem length_after_exponentPart {cs rest : List Char} {e : Option (Bool × List Char)}
    (h : exponentPart cs = .ok (e, rest)) : rest.length ≤ cs.length := by
  have step (r : List Char) (h : (digits (exponentSign r).2).map
      (fun p => (some ((exponentSign r).1, p.1), p.2)) = .ok (e, rest)) :
      rest.length ≤ r.length + 1 := by
    cases hd : digits (exponentSign r).2 with
    | error f => simp [hd, Except.map] at h
    | ok p =>
      simp only [hd, Except.map, Except.ok.injEq, Prod.mk.injEq] at h
      have : p.2.length < (exponentSign r).2.length := length_after_digits hd
      have := length_exponentSign r
      rw [← h.2]
      omega
  unfold exponentPart at h
  split at h
  · exact step _ h
  · exact step _ h
  · simp only [Except.ok.injEq, Prod.mk.injEq] at h
    simp [h.2]

/-- A numeral takes at least one character, so a reader that scans one makes progress. -/
theorem length_after_scan {cs rest : List Char} {w : Numeral} (h : scan cs = .ok (w, rest)) :
    rest.length < cs.length := by
  have hm : (minusSign cs).2.length ≤ cs.length := by
    unfold minusSign
    split <;> simp
  simp only [scan, bind, Except.bind] at h
  split at h
  · simp at h
  · next hw =>
    split at h
    · simp at h
    · next hf =>
      split at h
      · simp at h
      · next he =>
        have := length_after_wholePart hw
        have := length_after_fractionPart hf
        have := length_after_exponentPart he
        simp only [pure, Except.pure, Except.ok.injEq, Prod.mk.injEq] at h
        rw [← h.2]
        omega

/-! ## Value -/

/-- The value of a digit. -/
def digitValue (c : Char) : Nat :=
  c.toNat - '0'.toNat

/-- The largest significand. -/
def largest : Nat := 0xffffffffffffffff

/-- Take digits into a significand while it fits; the rest of the digits is left over. -/
def accumulate : Nat → List Char → Nat × List Char
  | sig, [] => (sig, [])
  | sig, d :: ds =>
    let next := sig * 10 + digitValue d
    if largest < next then (sig, d :: ds) else accumulate next ds

/-- The value of digits, unbounded. -/
def natOfDigits (ds : List Char) : Nat :=
  ds.foldl (fun n d => n * 10 + digitValue d) 0

/-- A power of ten as the nearest double. -/
def powerOfTen (e : Nat) : Float :=
  Float.ofScientific 1 false e

/-- `x * 10 ^ e`, in steps of at most 308 powers of ten. Too small a value is zero, too large a
one is out of range. -/
def scale (x : Float) (e : Int) : Nat → Except Problem Float
  | 0 => .ok 0
  | steps + 1 =>
    if e.natAbs ≤ 308 then
      if 0 ≤ e then
        let y := x * powerOfTen e.natAbs
        if y.isInf then .error .numberOutOfRange else .ok y
      else .ok (x / powerOfTen e.natAbs)
    else if x == 0 then .ok x
    else if 0 ≤ e then .error .numberOutOfRange
    else scale (x / powerOfTen 308) (e + 308) steps

/-- The largest exponent that is taken as a number. -/
def largestExponent : Nat := 0x7fffffff

/-- The magnitude of a significand with `e` counted decimal places and a written exponent. -/
def magnitude (sig : Nat) (e : Int) : Option (Bool × List Char) → Except Problem Float
  | none => scale (UInt64.ofNat sig).toFloat e 4
  | some (negative, ds) =>
    let n := natOfDigits ds
    if largestExponent < n then
      if sig ≠ 0 ∧ !negative then .error .numberOutOfRange else .ok 0
    else scale (UInt64.ofNat sig).toFloat (if negative then e - n else e + n) 4

/-- The number that a numeral stands for. -/
def value (w : Numeral) : Except Problem Number :=
  let (sig, excess) := accumulate 0 w.whole
  if excess.isEmpty ∧ w.fraction.isEmpty ∧ w.exponent.isNone ∧
      (!w.negative ∨ 0 < sig ∧ sig ≤ 0x8000000000000000) then
    .ok (.whole (if w.negative then -(sig : Int) else sig))
  else
    let (sig, left) := accumulate sig w.fraction
    let e : Int := excess.length - (w.fraction.length - left.length : Nat)
    (magnitude sig e w.exponent).map fun x => .real (if w.negative then -x else x)

end Numeral

end LiveShader.Json
