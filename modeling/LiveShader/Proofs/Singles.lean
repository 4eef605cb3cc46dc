import Mathlib

/-!
# Singles with all their digits

A single has 24 binary digits. A positive one that uses all of them (`IsFull`) is greater than zero,
finite, and may be divided by. Those that are too small for that are the only ones that rounding
could take to zero.

* A whole number of 32 bits is rounded to a full single (`isFull_toFloat32`).
* The quotient of two full singles is full, unless their exponents are far apart (`isFull_div`).

So whole numbers can be divided as singles without a thought of overflow and underflow. Exponents
are of the last digit: a full single with exponent `e` lies between `2 ^ (e + 23)` and
`2 ^ (e + 24)`.

Results:
* `full_round`: rounding a number with digits to spare keeps 24 of them.
* `unpack_pack`: packing a full number into 32 bits loses nothing.
* `isFull_toFloat32`, `isFull_div`: where full singles come from.
* `IsFull.pos`, `IsFull.isFinite`, `IsFull.ne_zero`: what they are good for.
-/

namespace LiveShader.Single

open Float.Model Float.Model.UnpackedFloat

/-! ## Rounding -/

/-- Positive, with this exponent, and with all the digits that a single has. -/
def Full (x : UnpackedFloat) (e : Int) : Prop :=
  ∃ m, ∃ h : 0 < m, x = .finite .positive m e h ∧ m.log2 = 23

variable {m : Nat} {e : Int}

theorem mantissa_shiftRight (em : ExtendedMantissa) (k : Nat) :
    (em >>> k).mantissa = em.mantissa / 2 ^ k := by
  induction k with
  | zero => exact (Nat.div_one _).symm
  | succ k ih =>
    have hstep : (em >>> (k + 1)).mantissa = (em >>> k).mantissa / 2 := rfl
    rw [hstep, ih, Nat.div_div_eq_div_mul, Nat.pow_succ]

theorem mantissa_of (m : Nat) (a : Accuracy) :
    (ExtendedMantissa.ofMantissaAndAccuracy m a).mantissa = m := by
  rcases a with _ | (_ | _ | _) <;> rfl

theorem le_roundedMantissa (em : ExtendedMantissa) : em.mantissa ≤ em.roundedMantissa := by
  obtain ⟨m, r, s⟩ := em
  cases r <;> cases s <;>
    simp [ExtendedMantissa.roundedMantissa, ExtendedMantissa.accuracy, Accuracy.roundToNearestEven]

theorem roundedMantissa_le (em : ExtendedMantissa) : em.roundedMantissa ≤ em.mantissa + 1 := by
  obtain ⟨m, r, s⟩ := em
  cases r <;> cases s <;>
    simp [ExtendedMantissa.roundedMantissa, ExtendedMantissa.accuracy, Accuracy.roundToNearestEven]
  omega

/-- The exponent of the last digit that a single has, unless that is a very small one. -/
theorem targetExponent_eq {t : Int} (ht : -125 ≤ t) :
    Format.binary32.targetExponent t = t - 24 := by
  simp only [Format.targetExponent, Format.mantissaBits, Format.minExponent]
  norm_num
  omega

/-- A number with digits to spare is cut to those that a single has. -/
theorem shift_eq (hm : 23 ≤ m.log2) (he : -126 ≤ m.log2 + e) (a : Accuracy) :
    (shiftToTargetExponent Format.binary32 m e a).1.mantissa = m / 2 ^ (m.log2 - 23) ∧
      (shiftToTargetExponent Format.binary32 m e a).2 = e + (m.log2 - 23 : Nat) := by
  have ht : Format.binary32.targetExponent (totalExponent m e) = m.log2 + e - 23 := by
    rw [totalExponent, targetExponent_eq (by omega)]
    omega
  have hk : (m.log2 + e - 23 - e).toNat = m.log2 - 23 := by omega
  simp only [shiftToTargetExponent, shiftToExponent, ht, hk, mantissa_shiftRight, mantissa_of,
    and_self]

/-- What has 24 or 25 digits. -/
theorem log2_of_bounds (hlow : 2 ^ 23 ≤ m) (hhigh : m < 2 ^ 25) :
    m.log2 = 23 ∨ m.log2 = 24 := by
  have hm : m ≠ 0 := by omega
  rw [Nat.log2_eq_iff hm, Nat.log2_eq_iff hm]
  omega

theorem ne_zero_of_le_log2 (hm : 23 ≤ m.log2) : m ≠ 0 := by
  rintro rfl
  simp at hm

theorem log2_cut (hm : 23 ≤ m.log2) : (m / 2 ^ (m.log2 - 23)).log2 = 23 := by
  rw [Nat.log2_eq_log_two] at hm ⊢
  rw [Nat.log2_eq_log_two, Nat.log_div_base_pow, Nat.sub_sub_self hm]

/-- **Rounding keeps the digits.** -/
theorem full_round (hm : 23 ≤ m.log2) (he : -126 ≤ m.log2 + e) (a : Accuracy) :
    ∃ e', m.log2 + e - 23 ≤ e' ∧ e' ≤ m.log2 + e - 22 ∧
      Full (roundWithAccuracy Format.binary32 .positive m e a) e' := by
  obtain ⟨hcut, hexp⟩ := shift_eq hm he a
  have hlog := log2_cut hm
  generalize hs : shiftToTargetExponent Format.binary32 m e a = s at hcut hexp
  obtain ⟨em, e₁⟩ := s
  dsimp only at hcut hexp
  -- Rounding up may carry to one digit more, which the second shift takes away again.
  have hr : em.roundedMantissa.log2 = 23 ∨ em.roundedMantissa.log2 = 24 := by
    rw [← hcut, Nat.log2_eq_iff (ne_zero_of_le_log2 (hcut ▸ hlog.ge))] at hlog
    have hlow := le_roundedMantissa em
    have hhigh := roundedMantissa_le em
    exact log2_of_bounds (by omega) (by omega)
  have hr' : 23 ≤ em.roundedMantissa.log2 := by omega
  obtain ⟨hcut', hexp'⟩ := shift_eq hr' (e := e₁) (by omega) .exact
  have hlog' := log2_cut hr'
  rw [← hcut'] at hlog'
  have hne : (shiftToTargetExponent Format.binary32 em.roundedMantissa e₁ .exact).1.mantissa ≠ 0 :=
    ne_zero_of_le_log2 hlog'.ge
  refine ⟨(shiftToTargetExponent Format.binary32 em.roundedMantissa e₁ .exact).2, by omega,
    by omega, _, Nat.pos_of_ne_zero hne, ?_, hlog'⟩
  simp only [roundWithAccuracy, hs]
  rw [dif_neg hne]

/-! ## Packing -/

/-- What has all its digits, and an exponent that singles have, is kept as it is. -/
theorem unpack_pack {x : UnpackedFloat} (hx : Full x e) (hlow : -149 ≤ e) (hhigh : e ≤ 104) :
    (Float32.Model.pack x).unpack = x := by
  obtain ⟨m, hm, rfl, hlog⟩ := hx
  obtain ⟨b, rfl⟩ : ∃ b : Nat, e = b - 150 := ⟨(e + 150).toNat, by omega⟩
  have hones : BitVec.ofNat 8 b ≠ -1#8 := by bv_omega
  have hzero : BitVec.ofNat 8 b ≠ 0#8 := by bv_omega
  have hmant : (1#1 ++ BitVec.ofNat 23 m).toNat = m := by
    have hm' := (Nat.log2_eq_iff hm.ne').mp hlog
    rw [BitVec.toNat_append, ← Nat.shiftLeft_add_eq_or_of_lt (BitVec.isLt _), BitVec.toNat_ofNat,
      Nat.shiftLeft_eq]
    simp
    omega
  have hbias : ((b : Int) - 150 + Format.binary32.exponentBias + (23 : Nat)).toNat = b := by
    simp [Format.exponentBias]
    omega
  have hbig : ¬ 2 ^ 8 ≤ b + 1 := by omega
  have hpack : UnpackedFloat.pack Format.binary32 (.finite .positive m (b - 150) hm) =
      packComponents Format.binary32 .positive (.ofNat 8 b) (.ofNat 23 m) := by
    simp only [UnpackedFloat.pack, hbias, if_neg hbig, hlog, Format.mantissaBits, if_true]
  unfold Float32.Model.unpack Float32.Model.pack
  simp only [hpack, UnpackedFloat.unpack, unpackExponent_packComponents,
    unpackMantissa_packComponents, unpackSign_packComponents, if_neg hones, if_neg hzero, hmant]
  congr 1
  simp [Format.exponentBias]
  omega

/-! ## Singles -/

/-- A single that is positive, with this exponent and all its digits. -/
def IsFull (x : Float32) (e : Int) : Prop :=
  Full x.toModel.unpack e

theorem isFull_pack {x : UnpackedFloat} (hx : Full x e) (hlow : -149 ≤ e) (hhigh : e ≤ 104) :
    IsFull (.ofModel (.pack x)) e := by
  unfold IsFull
  rw [unpack_pack hx hlow hhigh]
  exact hx

theorem log2_shiftLeft (hm : m ≠ 0) (k : Nat) : (m <<< k).log2 = m.log2 + k := by
  induction k with
  | zero => rfl
  | succ k ih =>
    have hne : m <<< k ≠ 0 := by simpa [Nat.shiftLeft_eq] using hm
    rw [Nat.shiftLeft_succ, Nat.log2_two_mul hne, ih, Nat.add_assoc]

/-- **Whole numbers have all their digits.** -/
theorem isFull_toFloat32 {n : UInt32} (hn : n ≠ 0) :
    ∃ e, -23 ≤ e ∧ e ≤ 9 ∧ IsFull n.toFloat32 e := by
  have hne : n.toNat ≠ 0 := fun h => hn (UInt32.toNat_inj.mp h)
  have hlog : n.toNat.log2 < 32 := (Nat.log2_lt hne).mpr n.toNat_lt
  have hmodel : n.toFloat32 =
      .ofModel (.pack (UnpackedFloat.round Format.binary32 .positive n.toNat 0)) := by
    have hgt : compare (n.toNat : Int) 0 = .gt := Int.compare_eq_gt.mpr (by omega)
    simp only [UInt32.toFloat32, Float32.Model.ofUInt32, UnpackedFloat.ofUInt32,
      UnpackedFloat.ofNat, UnpackedFloat.ofInt, UnpackedFloat.normalize, hgt, Int.toNat_natCast]
  have ht : Format.binary32.targetExponent (totalExponent n.toNat 0) = n.toNat.log2 - 23 := by
    rw [totalExponent, targetExponent_eq (by omega)]
    omega
  have hlog' := log2_shiftLeft hne (0 - ((n.toNat.log2 : Int) - 23)).toNat
  obtain ⟨e, hlow, hhigh, hfull⟩ := full_round
    (m := n.toNat <<< (0 - ((n.toNat.log2 : Int) - 23)).toNat)
    (e := 0 - (0 - ((n.toNat.log2 : Int) - 23)).toNat) (by omega) (by omega) .exact
  refine ⟨e, by omega, by omega, ?_⟩
  rw [hmodel, UnpackedFloat.round, ht]
  exact isFull_pack hfull (by omega) (by omega)

/-- **Quotients have all their digits**, unless they are too small or too large. -/
theorem isFull_div {x y : Float32} {e₁ e₂ : Int} (hx : IsFull x e₁) (hy : IsFull y e₂)
    (hlow : -125 ≤ e₁ - e₂) (hhigh : e₁ - e₂ ≤ 100) :
    ∃ e, e₁ - e₂ - 24 ≤ e ∧ e ≤ e₁ - e₂ - 22 ∧ IsFull (x / y) e := by
  obtain ⟨m₁, hm₁, hu₁, hlog₁⟩ := hx
  obtain ⟨m₂, hm₂, hu₂, hlog₂⟩ := hy
  have ht : Format.binary32.targetExponent (totalExponent m₁ e₁ - totalExponent m₂ e₂) =
      e₁ - e₂ - 24 := by
    rw [totalExponent, totalExponent, targetExponent_eq (by omega)]
    omega
  have hmin : min (e₁ - e₂) (e₁ - e₂ - 24) = e₁ - e₂ - 24 := by omega
  have hshift : (e₁ - e₂ - (e₁ - e₂ - 24)).toNat = 24 := by omega
  have hmodel : x / y = .ofModel (.pack (roundWithAccuracy Format.binary32 .positive
      (m₁ <<< 24 / m₂) (e₁ - e₂ - 24) (accuracyOfFraction (m₁ <<< 24 % m₂) m₂))) := by
    have hdiv : x / y = .ofModel (.pack (.div Format.binary32 x.toModel.unpack y.toModel.unpack)) :=
      rfl
    rw [hdiv, hu₁, hu₂]
    simp only [UnpackedFloat.div, divCore, ht, hmin, hshift]
    rfl
  have hquot : (m₁ <<< 24 / m₂).log2 = 23 ∨ (m₁ <<< 24 / m₂).log2 = 24 := by
    have h₁ := (Nat.log2_eq_iff hm₁.ne').mp hlog₁
    have h₂ := (Nat.log2_eq_iff hm₂.ne').mp hlog₂
    have hge : 2 ^ 23 ≤ m₁ <<< 24 / m₂ := by
      rw [Nat.le_div_iff_mul_le hm₂, Nat.shiftLeft_eq]
      omega
    have hlt : m₁ <<< 24 / m₂ < 2 ^ 25 := by
      rw [Nat.div_lt_iff_lt_mul hm₂, Nat.shiftLeft_eq]
      omega
    exact log2_of_bounds hge hlt
  obtain ⟨e, he, he', hfull⟩ := full_round (m := m₁ <<< 24 / m₂) (e := e₁ - e₂ - 24) (by omega)
    (by omega) (accuracyOfFraction (m₁ <<< 24 % m₂) m₂)
  refine ⟨e, by omega, by omega, ?_⟩
  rw [hmodel]
  exact isFull_pack hfull (by omega) (by omega)

/-! ## Against zero -/

theorem unpack_zero : (0 : Float32).toModel.unpack = .zero .positive := by
  rfl

theorem zero_lt_iff {x : Float32} : 0 < x ↔ (0 : Float32).toModel.unpack.lt x.toModel.unpack := by
  have hlt : 0 < x ↔ decide ((0 : Float32).toModel < x.toModel) = true := Iff.rfl
  rw [hlt, decide_eq_true_iff]
  rfl

theorem IsFull.pos {x : Float32} (h : IsFull x e) : 0 < x := by
  obtain ⟨m, hm, hu, -⟩ := h
  rw [zero_lt_iff, hu, unpack_zero]
  rfl

theorem IsFull.isFinite {x : Float32} (h : IsFull x e) : x.isFinite = true := by
  obtain ⟨m, hm, hu, -⟩ := h
  have hx : x.isFinite = x.toModel.unpack.isFinite := rfl
  rw [hx, hu]
  rfl

theorem IsFull.zero_div {x : Float32} (h : IsFull x e) : 0 / x = 0 := by
  obtain ⟨m, hm, hu, -⟩ := h
  have hdiv : 0 / x = .ofModel (.pack
      (.div Format.binary32 (0 : Float32).toModel.unpack x.toModel.unpack)) := rfl
  rw [hdiv, unpack_zero, hu]
  rfl

/-- A full single is not zero, as singles compare. -/
theorem IsFull.ne_zero {x : Float32} (h : IsFull x e) : (x == 0) = false := by
  obtain ⟨m, hm, hu, -⟩ := h
  have hbeq : (x == 0) = x.toModel.unpack.beq (0 : Float32).toModel.unpack := rfl
  rw [hbeq, hu, unpack_zero]
  rfl

end LiveShader.Single
