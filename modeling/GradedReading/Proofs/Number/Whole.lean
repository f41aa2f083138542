import GradedReading.Number.Double
import Mathlib

/-!
# GradedReading.Proofs.Number.Whole

Doubles add whole numbers exactly, up to 53 bits.

**Key idea:** a whole number of at most 53 bits has one form with a mantissa of exactly 53 bits,
`whole n`. Whatever zeros are put behind its mantissa, rounding comes back to this form, and so a
conversion, a product with one and a sum all end there.
-/

namespace GradedReading.Number

open Float.Model (Format UnpackedFloat totalExponent)
open Float.Model.UnpackedFloat

/-! ### The form of a whole number -/

/-- How many zeros go behind a number before it fills a mantissa of 53 bits. -/
def headroom (n : Nat) : Nat := mantissaBits - n.log2

/-- A whole number of at most 53 bits as a double, taken apart. -/
def whole (n : Nat) : UnpackedFloat :=
  if h : 0 < n then
    .finite .positive (n * 2 ^ headroom n) (-headroom n) (Nat.mul_pos h (Nat.two_pow_pos _))
  else .zero .positive

theorem whole_zero : whole 0 = .zero .positive := rfl

theorem whole_of_pos {n : Nat} (h : 0 < n) : whole n =
    .finite .positive (n * 2 ^ headroom n) (-headroom n) (Nat.mul_pos h (Nat.two_pow_pos _)) :=
  dif_pos h

theorem log2_mul_two_pow {n : Nat} (h : 0 < n) (k : Nat) : (n * 2 ^ k).log2 = n.log2 + k := by
  induction k with
  | zero => rw [Nat.pow_zero, Nat.mul_one, Nat.add_zero]
  | succ k ih =>
      have hpos : n * 2 ^ k ≠ 0 := (Nat.mul_pos h (Nat.two_pow_pos k)).ne'
      rw [Nat.pow_succ', Nat.mul_left_comm, Nat.log2_two_mul hpos, ih, Nat.add_assoc]

theorem log2_add_headroom {n : Nat} (h : 0 < n) (hn : n < 2 ^ 53) :
    n.log2 + headroom n = mantissaBits := by
  have hlog : n.log2 < 53 := (Nat.log2_lt (by omega)).2 hn
  rw [headroom, mantissaBits]
  omega

/-- The mantissa of a whole number is full. -/
theorem log2_mantissa {n : Nat} (h : 0 < n) (hn : n < 2 ^ 53) :
    (n * 2 ^ headroom n).log2 = mantissaBits := by
  rw [log2_mul_two_pow h, log2_add_headroom h hn]

/-! ### Rounding -/

/-- Zeros that are shifted out of an exact mantissa leave it exact. -/
theorem shiftRight_mul_two_pow (m k : Nat) :
    (⟨m * 2 ^ k, false, false⟩ : ExtendedMantissa) >>> k = ⟨m, false, false⟩ := by
  change Nat.repeat ExtendedMantissa.shiftRightOne k ⟨m * 2 ^ k, false, false⟩ = _
  induction k generalizing m with
  | zero => simp [Nat.repeat]
  | succ k ih =>
      have heven : m * 2 ^ (k + 1) = m * 2 * 2 ^ k := by
        rw [Nat.pow_succ, Nat.mul_comm (2 ^ k), Nat.mul_assoc]
      rw [Nat.repeat, heven, ih]
      simp [ExtendedMantissa.shiftRightOne]

theorem decreaseExponent_mul_two_pow (n : Nat) {j k : Nat} (hjk : j ≤ k) :
    decreaseExponent (n * 2 ^ j) (-j) (-k) = (n * 2 ^ k, -(k : Int)) := by
  obtain ⟨i, rfl⟩ := Nat.exists_eq_add_of_le hjk
  have hshift : (-(j : Int) - -((j + i : Nat) : Int)).toNat = i := by omega
  rw [decreaseExponent, hshift, Nat.shiftLeft_eq, Nat.pow_add, Nat.mul_assoc]
  exact Prod.ext rfl (by simp only; omega)

theorem decreaseExponent_of_le (n : Nat) {j k : Nat} (hkj : k ≤ j) :
    decreaseExponent (n * 2 ^ j) (-j) (-k) = (n * 2 ^ j, -(j : Int)) := by
  have hshift : (-(j : Int) - -(k : Int)).toNat = 0 := by omega
  rw [decreaseExponent, hshift]
  exact Prod.ext rfl (by simp only; omega)

section Rounding

variable {n : Nat} (h : 0 < n) (hn : n < 2 ^ 53)

include h hn

/-- A whole number is rounded at the last bit of its full mantissa. -/
theorem targetExponent_mul_two_pow (k : Nat) :
    Format.binary64.targetExponent (totalExponent (n * 2 ^ k) (-k)) = -headroom n := by
  have hfull := log2_add_headroom h hn
  rw [mantissaBits] at hfull
  simp only [Format.targetExponent, totalExponent, log2_mul_two_pow h, Format.mantissaBits,
    Format.minExponent]
  omega

theorem shiftToTargetExponent_mul_two_pow {k : Nat} (hk : headroom n ≤ k) :
    shiftToTargetExponent .binary64 (n * 2 ^ k) (-k) .exact =
      (⟨n * 2 ^ headroom n, false, false⟩, -(headroom n : Int)) := by
  obtain ⟨j, rfl⟩ := Nat.exists_eq_add_of_le hk
  have hshift : (-(headroom n : Int) - -((headroom n + j : Nat) : Int)).toNat = j := by omega
  simp only [shiftToTargetExponent, targetExponent_mul_two_pow h hn, shiftToExponent, hshift]
  refine Prod.ext ?_ (by simp only; omega)
  rw [Nat.pow_add, ← Nat.mul_assoc]
  exact shiftRight_mul_two_pow _ j

/-- Zeros behind the full mantissa are rounded away, and nothing else is. -/
theorem roundWithAccuracy_mul_two_pow {k : Nat} (hk : headroom n ≤ k) :
    roundWithAccuracy .binary64 .positive (n * 2 ^ k) (-k) .exact = whole n := by
  have hmantissa : ExtendedMantissa.roundedMantissa ⟨n * 2 ^ headroom n, false, false⟩ =
      n * 2 ^ headroom n := rfl
  have hpos : n * 2 ^ headroom n ≠ 0 := (Nat.mul_pos h (Nat.two_pow_pos _)).ne'
  simp only [roundWithAccuracy, shiftToTargetExponent_mul_two_pow h hn hk, hmantissa,
    shiftToTargetExponent_mul_two_pow h hn (Nat.le_refl _), dif_neg hpos, whole_of_pos h]

/-- **Whole numbers of at most 53 bits are rounded to themselves.** -/
theorem round_mul_two_pow (k : Nat) :
    UnpackedFloat.round .binary64 .positive (n * 2 ^ k) (-k) = whole n := by
  rw [UnpackedFloat.round, targetExponent_mul_two_pow h hn]
  rcases Nat.le_total k (headroom n) with hle | hge
  · rw [decreaseExponent_mul_two_pow n hle]
    exact roundWithAccuracy_mul_two_pow h hn (Nat.le_refl _)
  · rw [decreaseExponent_of_le n hge]
    exact roundWithAccuracy_mul_two_pow h hn hge

end Rounding

theorem normalize_mul_two_pow {n : Nat} (hn : n < 2 ^ 53) (k : Nat) :
    UnpackedFloat.normalize .binary64 (n * 2 ^ k : Nat) (-k) .positive = whole n := by
  rcases Nat.eq_zero_or_pos n with rfl | h
  · rw [Nat.zero_mul]
    rfl
  · have hpos : 0 < n * 2 ^ k := Nat.mul_pos h (Nat.two_pow_pos k)
    have hsign : compare ((n * 2 ^ k : Nat) : Int) 0 = .gt := Int.compare_eq_gt.2 (by omega)
    simp only [UnpackedFloat.normalize, hsign, Int.toNat_natCast]
    exact round_mul_two_pow h hn k

/-! ### Sums -/

/-- **The sum of whole numbers is exact.** -/
theorem add_whole {m n : Nat} (hsum : m + n < 2 ^ 53) :
    UnpackedFloat.add .binary64 (whole m) (whole n) = whole (m + n) := by
  rcases Nat.eq_zero_or_pos m with rfl | hm
  · rcases Nat.eq_zero_or_pos n with rfl | hn
    · rfl
    · rw [whole_zero, whole_of_pos hn, Nat.zero_add, whole_of_pos hn]
      rfl
  rcases Nat.eq_zero_or_pos n with rfl | hn
  · rw [whole_zero, whole_of_pos hm, Nat.add_zero, whole_of_pos hm]
    rfl
  -- both mantissas are brought to the smaller exponent, where they are added
  have hexponent : min (-(headroom m : Int)) (-(headroom n : Int)) =
      -(max (headroom m) (headroom n) : Nat) := by omega
  rw [whole_of_pos hm, whole_of_pos hn]
  simp only [UnpackedFloat.add, hexponent,
    decreaseExponent_mul_two_pow m (Nat.le_max_left (headroom m) (headroom n)),
    decreaseExponent_mul_two_pow n (Nat.le_max_right (headroom m) (headroom n)), Sign.apply]
  rw [← Int.natCast_add, ← Nat.add_mul]
  exact normalize_mul_two_pow hsum _

/-- The product of a whole number with one is the number. -/
theorem mul_one_whole (n : Nat) (hn : n < 2 ^ 53) :
    UnpackedFloat.mul .binary64 (whole n) (whole 1) = whole n := by
  rcases Nat.eq_zero_or_pos n with rfl | h
  · rfl
  · have hmantissa : n * 2 ^ headroom n * (1 * 2 ^ headroom 1) =
        n * 2 ^ (headroom n + headroom 1) := by
      rw [Nat.one_mul, Nat.mul_assoc, Nat.pow_add]
    have hexponent : -(headroom n : Int) + -(headroom 1 : Int) =
        -((headroom n + headroom 1 : Nat) : Int) := by omega
    rw [whole_of_pos h, whole_of_pos Nat.one_pos, UnpackedFloat.mul, hmantissa, hexponent,
      show Sign.positive * Sign.positive = Sign.positive from rfl,
      roundWithAccuracy_mul_two_pow h hn (Nat.le_add_right ..), whole_of_pos h]

/-! ### Doubles -/

/-- The first bit of a full mantissa is not stored, and comes back. -/
theorem toNat_one_append_ofNat {m : Nat} (hlow : 2 ^ 52 ≤ m) (hhigh : m < 2 ^ 53) :
    (1#1 ++ BitVec.ofNat 52 m).toNat = m := by
  rw [BitVec.toNat_append, ← Nat.shiftLeft_add_eq_or_of_lt (BitVec.isLt _), BitVec.toNat_ofNat,
    BitVec.toNat_ofNat, Nat.shiftLeft_eq]
  omega

theorem unpackSign_packComponents (s : Sign) (e : BitVec 11) (m : BitVec 52) :
    unpackSign (packComponents .binary64 s e m) = s.toBitVec := by
  change (s.toBitVec ++ e ++ m).extractLsb' 63 1 = s.toBitVec
  rw [BitVec.extractLsb'_append_eq_of_le (by decide),
    BitVec.extractLsb'_append_eq_of_le (by decide)]
  cases s <;> rfl

/-- A full mantissa with a small exponent survives being packed. -/
theorem unpack_pack_of_full {m e : Nat} (hpos : 0 < m) (hfull : m.log2 = mantissaBits)
    (he : e ≤ mantissaBits) :
    unpack .binary64 (pack .binary64 (.finite .positive m (-e) hpos)) =
      .finite .positive m (-e) hpos := by
  rw [mantissaBits] at hfull he
  obtain ⟨hlow, hhigh⟩ := (Nat.log2_eq_iff (by omega : m ≠ 0)).1 hfull
  have hbiased : (-(e : Int) + Format.binary64.exponentBias +
      Format.binary64.mantissaBitsWithoutImplicit).toNat = 1075 - e := by
    change (-(e : Int) + 1023 + 52).toNat = _
    omega
  have hpacked : pack .binary64 (.finite .positive m (-e) hpos) =
      packComponents .binary64 .positive (.ofNat 11 (1075 - e)) (.ofNat 52 m) := by
    simp only [pack, hbiased, hfull]
    rw [if_neg (show ¬ 2 ^ 11 ≤ 1075 - e + 1 by omega),
      if_pos (show 52 + 1 = Format.binary64.mantissaBits from rfl)]
  have hfield : (BitVec.ofNat 11 (1075 - e)).toNat = 1075 - e :=
    BitVec.toNat_ofNat .. |>.trans (Nat.mod_eq_of_lt (by omega))
  have hfinite : BitVec.ofNat 11 (1075 - e) ≠ -1#11 := fun h => by
    have hall := hfield.symm.trans (congrArg BitVec.toNat h)
    simp only [BitVec.reduceNeg, BitVec.toNat_ofNat] at hall
    omega
  have hnormal : BitVec.ofNat 11 (1075 - e) ≠ 0#11 := fun h => by
    have hnone := hfield.symm.trans (congrArg BitVec.toNat h)
    simp only [BitVec.toNat_ofNat] at hnone
    omega
  have hexponent : ((1075 - e : Nat) : Int) - (Format.binary64.exponentBias +
      Format.binary64.mantissaBitsWithoutImplicit) = -e := by
    change ((1075 - e : Nat) : Int) - (1023 + 52) = _
    omega
  rw [hpacked]
  simp only [unpack, unpackMantissa_packComponents, unpackExponent_packComponents,
    unpackSign_packComponents]
  rw [if_neg hfinite, if_neg hnormal]
  simp only [hfield, hexponent, toNat_one_append_ofNat hlow hhigh]
  rfl

/-- A whole number survives being packed into a double. -/
theorem unpack_pack_whole {n : Nat} (hn : n < 2 ^ 53) :
    (Float.Model.pack (whole n)).unpack = whole n := by
  rcases Nat.eq_zero_or_pos n with rfl | h
  · rfl
  · rw [whole_of_pos h]
    exact unpack_pack_of_full _ (log2_mantissa h hn) (Nat.sub_le ..)

/-- The conversion of a whole number is exact. -/
theorem toFloat_eq {n : Nat} (hn : n < 2 ^ 53) :
    n.toFloat = .ofModel (Float.Model.pack (whole n)) := by
  have hword : n.toUInt64.toNat = n := by
    rw [Nat.toUInt64_eq]
    exact UInt64.toNat_ofNat_of_lt' (Nat.lt_trans hn (by decide))
  have hone : (Float.exactlyRepresentablePowersOfTen[0]).toModel.unpack = whole 1 := rfl
  have hconverted : n.toUInt64.toFloat.toModel.unpack = whole n := by
    have hround := normalize_mul_two_pow hn 0
    rw [Nat.pow_zero, Nat.mul_one] at hround
    change (Float.Model.pack (.normalize .binary64 n.toUInt64.toNat 0 .positive)).unpack = _
    rw [hword]
    exact (congrArg (fun x => (Float.Model.pack x).unpack) hround).trans (unpack_pack_whole hn)
  -- numbers are read as decimal numbers: their digits times a power of ten, which is one here
  have hproduct : n.toFloat = n.toUInt64.toFloat * Float.exactlyRepresentablePowersOfTen[0] :=
    dif_pos ⟨hn, Nat.zero_le _⟩
  rw [hproduct]
  change Float.ofModel (Float.Model.pack (UnpackedFloat.mul .binary64 _ _)) = _
  rw [hconverted, hone, mul_one_whole n hn]

/-- **Doubles add whole numbers exactly.** -/
theorem toFloat_add_toFloat {m n : Nat} (hsum : m + n < 2 ^ 53) :
    m.toFloat + n.toFloat = (m + n).toFloat := by
  have hm : m < 2 ^ 53 := by omega
  have hn : n < 2 ^ 53 := by omega
  rw [toFloat_eq hm, toFloat_eq hn, toFloat_eq hsum, ← add_whole hsum]
  change Float.ofModel (Float.Model.pack (UnpackedFloat.add .binary64
    (Float.Model.pack (whole m)).unpack (Float.Model.pack (whole n)).unpack)) = _
  rw [unpack_pack_whole hm, unpack_pack_whole hn]

/-- A sum may start from minus zero. -/
theorem negZero_add_toFloat {n : Nat} (hn : n < 2 ^ 53) : -0.0 + n.toFloat = n.toFloat := by
  have hzero : (-0.0 : Float).toModel.unpack = .zero .negative := rfl
  have hadd : UnpackedFloat.add .binary64 (.zero .negative) (whole n) = whole n := by
    rcases Nat.eq_zero_or_pos n with rfl | h
    · rfl
    · rw [whole_of_pos h]
      rfl
  rw [toFloat_eq hn]
  change Float.ofModel (Float.Model.pack (UnpackedFloat.add .binary64
    (-0.0 : Float).toModel.unpack (Float.Model.pack (whole n)).unpack)) = _
  rw [hzero, unpack_pack_whole hn, hadd]

end GradedReading.Number
