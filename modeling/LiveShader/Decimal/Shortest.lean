import LiveShader.Decimal.Binary

/-!
# The shortest decimal that reads back

`shortest b` is the decimal with the fewest digits among those that round to the float `b`; of
several, the one nearest to it, and of two equally near the one with an even last digit.

The reals that round to `b` form an interval around it; its ends belong to it exactly when `b.m` is
even. A decimal with a given last place lies in the interval only if one of the two neighbours of
`b` on the grid of that place does, so it suffices to test these two, from coarse grids to fine.
-/

namespace LiveShader.Decimal

/-- The decimal `digits * 10 ^ exponent`. -/
structure Scientific where
  digits : Nat
  exponent : Int
  deriving DecidableEq, Repr

/-- Whether `c * 10 ^ k` rounds to `b`. -/
def roundsTo (b : Binary) (k : Int) (c : Nat) : Bool :=
  let quarter : Binary := ⟨1, b.q - 2, false⟩
  let unit := quarter.above k
  let x := c * quarter.below k
  let low := (4 * b.m - if b.narrow then 1 else 2) * unit
  let high := (4 * b.m + 2) * unit
  if b.m % 2 = 0 then low ≤ x && x ≤ high else low < x && x < high

/-- The neighbour of `b` on the grid `10 ^ k` that rounds to `b`, the nearer one if both do. -/
def onGrid (b : Binary) (k : Int) : Option Nat :=
  let c := b.above k / b.below k
  let r := b.above k % b.below k
  match roundsTo b k c, roundsTo b k (c + 1) with
  | true, true =>
    if 2 * r < b.below k then some c
    else if b.below k < 2 * r then some (c + 1)
    else if c % 2 = 0 then some c else some (c + 1)
  | true, false => some c
  | false, true => some (c + 1)
  | false, false => none

/-- The exponent of the leading decimal digit of a positive value. -/
def leading (b : Binary) : Int :=
  let whole := b.above 0 / b.below 0
  if whole = 0 then
    match (List.range 400).find? fun j => b.below 0 ≤ b.above 0 * Nat.pow 10 j with
    | some j => -(j : Int)
    | none => 0
  else (toString whole).length - 1

/-- The first grid with a hit, from `10 ^ k` downwards. -/
def search (b : Binary) : Nat → Int → Scientific
  | 0, k => ⟨b.above k / b.below k, k⟩
  | n + 1, k =>
    match onGrid b k with
    | some c => ⟨c, k⟩
    | none => search b n (k - 1)

/-- The same decimal without zeros at the end of its digits. -/
def Scientific.stripped : Nat → Scientific → Scientific
  | 0, s => s
  | n + 1, s => if s.digits % 10 = 0 then stripped n ⟨s.digits / 10, s.exponent + 1⟩ else s

/-- The shortest decimal that reads back as the positive value `b`. -/
def shortest (b : Binary) : Scientific :=
  (search b 20 (leading b)).stripped 20

/-- An exponent with its sign. -/
def signed (e : Int) : String :=
  if e < 0 then toString e else "+" ++ toString e

/-- The digits that stand for a decimal, with a point and at least one place while its leading digit
is at most sixteen places before the point or five after it, and as `d.ddde±x` beyond. -/
def Scientific.text (s : Scientific) : String :=
  let ds := toString s.digits
  let point : Int := ds.length + s.exponent
  let zeros (n : Int) := String.ofList (List.replicate n.toNat '0')
  if 0 ≤ s.exponent ∧ point ≤ 16 then ds ++ zeros s.exponent ++ ".0"
  else if 0 < point ∧ point ≤ 16 then
    String.ofList (ds.toList.take point.toNat) ++ "." ++ String.ofList (ds.toList.drop point.toNat)
  else if -5 < point ∧ point ≤ 0 then "0." ++ zeros (-point) ++ ds
  else if ds.length = 1 then ds ++ "e" ++ signed s.exponent
  else
    String.ofList (ds.toList.take 1) ++ "." ++ String.ofList (ds.toList.drop 1) ++ "e" ++
      signed (point - 1)

/-- A finite double as text. Zero keeps its sign. -/
def ofFloat (x : Float) : String :=
  let sign := if x.toBits.toNat < 0x8000000000000000 then "" else "-"
  let b := Binary.ofFloat x
  if b.m = 0 then sign ++ "0.0" else sign ++ (shortest b).text

end LiveShader.Decimal
