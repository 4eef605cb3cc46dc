import LiveShader.Decimal.Binary

/-!
# A fixed number of decimal places

`roundDiv` rounds a quotient to the nearest whole number, a tie to the even one. `fixed` writes the
exact value of a float with a given number of places.
-/

namespace LiveShader.Decimal

/-- The whole number nearest to `a / b`; of two equally near, the even one. -/
def roundDiv (a b : Nat) : Nat :=
  let d := a / b
  let r := a % b
  if 2 * r < b then d
  else if b < 2 * r then d + 1
  else if d % 2 = 0 then d else d + 1

/-- The digits of `n`, with zeros in front up to `width`. -/
def padded (width n : Nat) : String :=
  let digits := toString n
  String.ofList (List.replicate (width - digits.length) '0') ++ digits

/-- A whole number of units of the last place, written with `places` places. -/
def placed (places n : Nat) : String :=
  let unit := Nat.pow 10 places
  toString (n / unit) ++ "." ++ padded places (n % unit)

/-- A finite value that is not negative, rounded to `places` places. -/
def fixed (places : Nat) (b : Binary) : String :=
  placed places (roundDiv (b.above (-places)) (b.below (-places)))

end LiveShader.Decimal
