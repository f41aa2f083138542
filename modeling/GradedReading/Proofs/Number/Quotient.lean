import GradedReading.Proofs.Number.Whole

/-!
# GradedReading.Proofs.Number.Quotient

Of two different whole numbers, doubles divide the greater by the less to a number above one.

**Key idea:** the quotient is first computed with one bit to spare and then rounded to 53 bits. A
quotient of two or more cannot be rounded down to one. Below two, it differs from one by at least
one part in `2 ^ 53`, which is half a unit of the last bit; and there the spare bit and the
remainder, which is not zero, round it up.
-/

namespace GradedReading.Number

open Float.Model (Format UnpackedFloat totalExponent)
open Float.Model.UnpackedFloat

/-! ### Full mantissas -/

/-- A mantissa of exactly 53 bits. -/
def IsFull (m : Nat) : Prop := 2 ^ 52 ≤ m ∧ m < 2 ^ 53

theorem IsFull.pos {m : Nat} (h : IsFull m) : 0 < m := Nat.lt_of_lt_of_le (by decide) h.1

theorem IsFull.log2_eq {m : Nat} (h : IsFull m) : m.log2 = 52 :=
  (Nat.log2_eq_iff h.pos.ne').2 h

theorem isFull_mantissa {n : Nat} (h : 0 < n) (hn : n < 2 ^ 53) : IsFull (n * 2 ^ headroom n) :=
  (Nat.log2_eq_iff (Nat.mul_pos h (Nat.two_pow_pos _)).ne').1 (log2_mantissa h hn)

/-- A full mantissa is rounded at its last bit. -/
theorem shiftToTargetExponent_of_full {m : Nat} (hm : IsFull m) {e : Int} (he : -1074 ≤ e)
    (accuracy : Accuracy) : shiftToTargetExponent .binary64 m e accuracy =
      (.ofMantissaAndAccuracy m accuracy, e) := by
  have htarget : Format.binary64.targetExponent (totalExponent m e) = e := by
    simp only [Format.targetExponent, totalExponent, hm.log2_eq, Format.mantissaBits,
      Format.minExponent]
    omega
  have hshift : (e - e).toNat = 0 := by omega
  simp only [shiftToTargetExponent, htarget, shiftToExponent, hshift]
  exact Prod.ext rfl (by simp)

/-- A mantissa that is one bit too long is rounded at its last bit but one. -/
theorem shiftToTargetExponent_of_long {m : Nat} (hlow : 2 ^ 53 ≤ m) (hhigh : m < 2 ^ 54) {e : Int}
    (he : -1074 ≤ e) (accuracy : Accuracy) : shiftToTargetExponent .binary64 m e accuracy =
      ((ExtendedMantissa.ofMantissaAndAccuracy m accuracy).shiftRightOne, e + 1) := by
  have hlog : m.log2 = 53 := (Nat.log2_eq_iff (by omega)).2 ⟨hlow, hhigh⟩
  have htarget : Format.binary64.targetExponent (totalExponent m e) = e + 1 := by
    simp only [Format.targetExponent, totalExponent, hlog, Format.mantissaBits, Format.minExponent]
    omega
  have hshift : (e + 1 - e).toNat = 1 := by omega
  simp only [shiftToTargetExponent, htarget, shiftToExponent, hshift]
  rfl

/-- What is full after rounding is the result. -/
theorem roundWithAccuracy_of_full {m : Nat} {e e' : Int} {accuracy : Accuracy}
    {em : ExtendedMantissa}
    (hshift : shiftToTargetExponent .binary64 m e accuracy = (em, e'))
    (hfull : IsFull em.roundedMantissa) (he : -1074 ≤ e') :
    roundWithAccuracy .binary64 .positive m e accuracy =
      .finite .positive em.roundedMantissa e' hfull.pos := by
  have hmantissa : (ExtendedMantissa.ofMantissaAndAccuracy em.roundedMantissa .exact).mantissa =
      em.roundedMantissa := rfl
  simp only [roundWithAccuracy, hshift, shiftToTargetExponent_of_full hfull he, hmantissa,
    dif_neg hfull.pos.ne']

theorem roundedMantissa_bounds (em : ExtendedMantissa) :
    em.mantissa ≤ em.roundedMantissa ∧ em.roundedMantissa ≤ em.mantissa + 1 := by
  obtain ⟨m, round, sticky⟩ := em
  cases round <;> cases sticky <;>
    simp only [ExtendedMantissa.roundedMantissa, ExtendedMantissa.accuracy,
      Accuracy.roundToNearestEven] <;> omega

/-- What is less than half a unit is cut off. -/
theorem roundedMantissa_of_even (m : Nat) (sticky : Bool) :
    ExtendedMantissa.roundedMantissa ⟨m, false, sticky⟩ = m := by cases sticky <;> rfl

theorem mantissa_ofMantissaAndAccuracy (m : Nat) (accuracy : Accuracy) :
    (ExtendedMantissa.ofMantissaAndAccuracy m accuracy).mantissa = m := by
  cases accuracy with
  | exact => rfl
  | inexact o => cases o <;> rfl

/-- A remainder leaves its trace. -/
theorem rest_ofMantissaAndAccuracy (m : Nat) {num : Nat} (den : Nat) (h : num ≠ 0) :
    ((ExtendedMantissa.ofMantissaAndAccuracy m (accuracyOfFraction num den)).roundBit ||
      (ExtendedMantissa.ofMantissaAndAccuracy m (accuracyOfFraction num den)).stickyBit) = true := by
  rw [accuracyOfFraction, if_neg h]
  cases compare (2 * num) den <;> rfl

/-! ### Quotients of full mantissas -/

section Quotient

variable {m n : Nat} (hm : IsFull m) (hn : IsFull n)

include hm hn

/-- The quotient of full mantissas is computed to 53 bits after the point. -/
theorem divCore_of_full {i j : Nat} (hi : i ≤ 52) :
    divCore .binary64 m (-i) n (-j) =
      (m * 2 ^ 53 / n, (j : Int) - i - 53, accuracyOfFraction (m * 2 ^ 53 % n) n) := by
  have htarget : min (-(i : Int) - -(j : Int)) (Format.binary64.targetExponent
      (totalExponent m (-i) - totalExponent n (-j))) = (j : Int) - i - 53 := by
    simp only [Format.targetExponent, totalExponent, hm.log2_eq, hn.log2_eq, Format.mantissaBits,
      Format.minExponent]
    omega
  have hshift : (-(i : Int) - -(j : Int) - ((j : Int) - i - 53)).toNat = 53 := by omega
  simp only [divCore, htarget, hshift, Nat.shiftLeft_eq]

/-- A quotient of mantissas that is at least one fills 54 bits, and the last one is not rounded up
past them. -/
theorem quotient_long (h : n ≤ m) : 2 ^ 53 ≤ m * 2 ^ 53 / n ∧ m * 2 ^ 53 / n ≤ 2 ^ 54 - 2 := by
  obtain ⟨-, hm⟩ := hm
  obtain ⟨hlow, -⟩ := hn
  have hpos : 0 < n := by omega
  exact ⟨(Nat.le_div_iff_mul_le hpos).2 (by omega), Nat.div_le_of_le_mul (by omega)⟩

/-- A quotient of mantissas that is less than one fills 53 bits. -/
theorem quotient_short (h : m < n) : 2 ^ 52 ≤ m * 2 ^ 53 / n ∧ m * 2 ^ 53 / n < 2 ^ 53 - 1 := by
  obtain ⟨hlow, -⟩ := hm
  obtain ⟨hpos, hhigh⟩ := hn
  exact ⟨(Nat.le_div_iff_mul_le (by omega)).2 (by omega),
    (Nat.div_lt_iff_lt_mul (by omega)).2 (by omega)⟩

theorem isFull_quotient_short (h : m < n) : IsFull (m * 2 ^ 53 / n) := by
  obtain ⟨hlow, hhigh⟩ := quotient_short hm hn h
  exact ⟨hlow, by omega⟩

/-- What a quotient of at least one is rounded to. -/
theorem isFull_rounded_long (h : n ≤ m) (accuracy : Accuracy) :
    IsFull (ExtendedMantissa.ofMantissaAndAccuracy (m * 2 ^ 53 / n)
      accuracy).shiftRightOne.roundedMantissa := by
  obtain ⟨hlow, hhigh⟩ := quotient_long hm hn h
  generalize m * 2 ^ 53 / n = q at hlow hhigh
  have hbounds := roundedMantissa_bounds
    (ExtendedMantissa.ofMantissaAndAccuracy q accuracy).shiftRightOne
  rw [ExtendedMantissa.shiftRightOne, mantissa_ofMantissaAndAccuracy] at hbounds ⊢
  by_cases heven : q % 2 = 0
  · have hround : (q % 2 != 0) = false := by rw [heven]; rfl
    rw [hround, roundedMantissa_of_even]
    constructor <;> omega
  · constructor <;> simp only at hbounds <;> omega

omit hm in
/-- A mantissa that is greater than another one is greater by enough. -/
theorem lt_rounded_long (h : n < m) :
    2 ^ 52 < (ExtendedMantissa.ofMantissaAndAccuracy (m * 2 ^ 53 / n)
      (accuracyOfFraction (m * 2 ^ 53 % n) n)).shiftRightOne.roundedMantissa := by
  obtain ⟨hlow, hhigh⟩ := hn
  have hpos : 0 < n := by omega
  have hquotient : 2 ^ 53 + 1 ≤ m * 2 ^ 53 / n := (Nat.le_div_iff_mul_le hpos).2 (by omega)
  have hdivision := Nat.div_add_mod (m * 2 ^ 53) n
  by_cases hone : m * 2 ^ 53 / n = 2 ^ 53 + 1
  · -- the spare bit is set, and the remainder is not zero
    have hrest : m * 2 ^ 53 % n ≠ 0 := by
      intro hzero
      rw [hone, hzero] at hdivision
      omega
    rw [ExtendedMantissa.shiftRightOne, rest_ofMantissaAndAccuracy _ _ hrest,
      mantissa_ofMantissaAndAccuracy, hone]
    decide
  · have hbounds := roundedMantissa_bounds (ExtendedMantissa.ofMantissaAndAccuracy (m * 2 ^ 53 / n)
      (accuracyOfFraction (m * 2 ^ 53 % n) n)).shiftRightOne
    refine Nat.lt_of_lt_of_le ?_ hbounds.1
    rw [ExtendedMantissa.shiftRightOne, mantissa_ofMantissaAndAccuracy]
    simp only
    omega

/-- What a quotient of less than one is rounded to. -/
theorem isFull_rounded_short (h : m < n) (accuracy : Accuracy) :
    IsFull (ExtendedMantissa.ofMantissaAndAccuracy (m * 2 ^ 53 / n) accuracy).roundedMantissa := by
  obtain ⟨hlow, hhigh⟩ := quotient_short hm hn h
  have hbounds := roundedMantissa_bounds
    (ExtendedMantissa.ofMantissaAndAccuracy (m * 2 ^ 53 / n) accuracy)
  rw [mantissa_ofMantissaAndAccuracy] at hbounds
  constructor <;> omega

end Quotient

/-! ### Quotients of whole numbers -/

theorem lt_iff_unpack {x y : Float} :
    x < y ↔ UnpackedFloat.lt x.toModel.unpack y.toModel.unpack = true := by
  change x.lt y = true ↔ _
  rw [Float.lt, decide_eq_true_iff]
  rfl

/-- What is rounded to a full mantissa above the least one, or to any with a greater exponent, is
above one. -/
theorem one_lt_of_rounded {q e : Nat} {exponent target : Int} {accuracy : Accuracy}
    {em : ExtendedMantissa}
    (hshift : shiftToTargetExponent .binary64 q exponent accuracy = (em, target))
    (htarget : target = -(e : Int)) (hfull : IsFull em.roundedMantissa) (he : e ≤ 52)
    (h : e < 52 ∨ 2 ^ 52 < em.roundedMantissa) :
    (1 : Nat).toFloat <
      .ofModel (Float.Model.pack (roundWithAccuracy .binary64 .positive q exponent accuracy)) := by
  subst htarget
  have hunpacked : (Float.Model.pack (.finite .positive em.roundedMantissa (-e) hfull.pos)).unpack =
      .finite .positive em.roundedMantissa (-e) hfull.pos :=
    unpack_pack_of_full hfull.pos hfull.log2_eq he
  rw [lt_iff_unpack, toFloat_eq (by decide), unpack_pack_whole (by decide),
    roundWithAccuracy_of_full hshift hfull (by omega), hunpacked, whole_of_pos Nat.one_pos]
  have hexponent : compare (-(headroom 1 : Int)) (-(e : Int)) = if e < 52 then .lt else .eq := by
    change compare (-52 : Int) (-(e : Int)) = _
    split
    · exact Int.compare_eq_lt.2 (by omega)
    · exact Int.compare_eq_eq.2 (by omega)
  simp only [UnpackedFloat.lt, UnpackedFloat.compare, hexponent]
  by_cases hlt : e < 52
  · rw [if_pos hlt]
    rfl
  · have hmantissa : compare (1 * 2 ^ headroom 1) em.roundedMantissa = .lt :=
      Nat.compare_eq_lt.2 (h.resolve_left hlt)
    rw [if_neg hlt, hmantissa]
    rfl

section Whole

variable {k m : Nat} (hk : 0 < k) (hkm : k < m) (hm : m < 2 ^ 53)

include hk hkm hm

/-- Whole numbers are divided by dividing their full mantissas. -/
theorem toFloat_div_toFloat : m.toFloat / k.toFloat =
    .ofModel (Float.Model.pack (roundWithAccuracy .binary64 .positive
      (m * 2 ^ headroom m * 2 ^ 53 / (k * 2 ^ headroom k))
      ((headroom k : Int) - headroom m - 53)
      (accuracyOfFraction (m * 2 ^ headroom m * 2 ^ 53 % (k * 2 ^ headroom k))
        (k * 2 ^ headroom k)))) := by
  have hmpos : 0 < m := by omega
  have hk53 : k < 2 ^ 53 := by omega
  rw [toFloat_eq hm, toFloat_eq hk53]
  change Float.ofModel (Float.Model.pack (UnpackedFloat.div .binary64
    (Float.Model.pack (whole m)).unpack (Float.Model.pack (whole k)).unpack)) = _
  rw [unpack_pack_whole hm, unpack_pack_whole hk53, whole_of_pos hmpos, whole_of_pos hk,
    UnpackedFloat.div, divCore_of_full (isFull_mantissa hmpos hm) (isFull_mantissa hk hk53)
      (show headroom m ≤ 52 from Nat.sub_le ..)]
  rfl

omit hk hm in
/-- If the mantissa of the greater number is the lesser one, the quotient is still above one half,
by more than the last bit. -/
theorem lt_quotient_short (hk : 0 < k) (hk52 : k < 2 ^ 52) (i : Nat) :
    2 ^ 52 < m * 2 ^ i * 2 ^ 53 / (k * 2 ^ (i + 1)) := by
  have hpow : 0 < 2 ^ (i + 1) := Nat.two_pow_pos _
  have hscaled : m * 2 ^ i * 2 ^ 53 / (k * 2 ^ (i + 1)) = m * 2 ^ 52 / k := by
    rw [show m * 2 ^ i * 2 ^ 53 = m * 2 ^ 52 * 2 ^ (i + 1) by ring, Nat.mul_div_mul_right _ _ hpow]
  rw [hscaled]
  exact (Nat.le_div_iff_mul_le hk).2 (by omega)

/-- **Of two whole numbers, the greater divided by the less is above one.** -/
theorem one_lt_toFloat_div : (1 : Nat).toFloat < m.toFloat / k.toFloat := by
  have hmpos : 0 < m := by omega
  have hk53 : k < 2 ^ 53 := by omega
  have hfullm := isFull_mantissa hmpos hm
  have hfullk := isFull_mantissa hk hk53
  have hlog : k.log2 ≤ m.log2 :=
    (Nat.le_log2 hmpos.ne').2 ((Nat.log2_self_le hk.ne').trans hkm.le)
  have hroomm := log2_add_headroom hmpos hm
  have hroomk := log2_add_headroom hk hk53
  rw [mantissaBits] at hroomm hroomk
  rw [toFloat_div_toFloat hk hkm hm]
  generalize headroom m = i at *
  generalize headroom k = j at *
  rcases Nat.lt_or_ge (m * 2 ^ i) (k * 2 ^ j) with hshort | hlong
  · -- the mantissas compare the other way, so the numbers differ in their headroom
    have hij : i < j := by
      by_contra hge
      have hsame : i = j := by omega
      rw [hsame] at hshort
      exact absurd (Nat.lt_of_mul_lt_mul_right hshort) (by omega)
    have hexponent : (j : Int) - i - 53 = -((53 + i - j : Nat) : Int) := by omega
    refine one_lt_of_rounded
      (shiftToTargetExponent_of_full (isFull_quotient_short hfullm hfullk hshort) (by omega) _)
      hexponent (isFull_rounded_short hfullm hfullk hshort _) (by omega) ?_
    rcases Nat.lt_or_ge (i + 1) j with hfar | hnear
    · exact .inl (by omega)
    · have hnext : j = i + 1 := by omega
      have hk52 : k < 2 ^ 52 := (Nat.log2_lt hk.ne').1 (by omega)
      refine .inr (Nat.lt_of_lt_of_le ?_ (roundedMantissa_bounds _).1)
      rw [mantissa_ofMantissaAndAccuracy, hnext]
      exact lt_quotient_short hkm hk hk52 i
  · obtain ⟨hlow, hhigh⟩ := quotient_long hfullm hfullk hlong
    have hexponent : (j : Int) - i - 53 + 1 = -((52 + i - j : Nat) : Int) := by omega
    refine one_lt_of_rounded (shiftToTargetExponent_of_long hlow (by omega) (by omega) _)
      hexponent (isFull_rounded_long hfullm hfullk hlong _) (by omega) ?_
    rcases Nat.lt_or_ge i j with hfar | hnear
    · exact .inl (by omega)
    · -- with the same headroom, the greater number has the greater mantissa
      have hsame : j = i := by omega
      refine .inr (lt_rounded_long hfullk ?_)
      rw [hsame]
      exact Nat.mul_lt_mul_of_pos_right hkm (Nat.two_pow_pos i)

end Whole

end GradedReading.Number
