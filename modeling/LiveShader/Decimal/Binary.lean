/-!
# A float as a whole number times a power of two

`Binary` is a non-negative value `m * 2 ^ q`, read off the bits of a finite `Float` or `Float32`.
All decimal text is computed from it in exact whole-number arithmetic.
-/

namespace LiveShader.Decimal

/-- The value `m * 2 ^ q`. -/
structure Binary where
  m : Nat
  q : Int
  /-- Whether the next smaller float is only half as far away as the next larger one. -/
  narrow : Bool := false
  deriving DecidableEq, Repr

/-- The magnitude held by `exponent` and `fraction` bits: a fraction of `width` bits below a leading
bit that only the exponent zero lacks, and an exponent counted from `bias`. -/
def Binary.ofFields (width : Nat) (bias : Int) (exponent fraction : Nat) : Binary :=
  if exponent = 0 then ⟨fraction, 1 - bias - width, false⟩
  else ⟨Nat.pow 2 width + fraction, exponent - bias - width, fraction == 0 && exponent != 1⟩

/-- The magnitude of a finite double. -/
def Binary.ofFloat (x : Float) : Binary :=
  let bits := x.toBits.toNat
  .ofFields 52 1023 (bits / 0x10000000000000 % 0x800) (bits % 0x10000000000000)

/-- The magnitude of a finite single. -/
def Binary.ofFloat32 (x : Float32) : Binary :=
  let bits := x.toBits.toNat
  .ofFields 23 127 (bits / 0x800000 % 0x100) (bits % 0x800000)

/-- The numerator of `m * 2 ^ q / 10 ^ k` over `Binary.below`. -/
def Binary.above (b : Binary) (k : Int) : Nat :=
  b.m * Nat.pow 2 b.q.toNat * Nat.pow 10 (-k).toNat

/-- The denominator of `m * 2 ^ q / 10 ^ k`. -/
def Binary.below (b : Binary) (k : Int) : Nat :=
  Nat.pow 2 (-b.q).toNat * Nat.pow 10 k.toNat

end LiveShader.Decimal
