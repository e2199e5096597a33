import ConverterKit.Binary64
import Mathlib.Algebra.Order.Field.Power
import Mathlib.Data.Rat.Cast.Order
import Mathlib.Tactic.FieldSimp
import Mathlib.Tactic.Linarith
import Mathlib.Tactic.NormNum
import Mathlib.Tactic.Positivity
import Mathlib.Tactic.Ring

/-!
# Rounding keeps the order

A ratio is rounded in two steps: an exponent is chosen so that the ratio, counted in the unit of
this exponent, has 53 binary digits before the point; then it is rounded to a whole number of units.
Both steps keep the order of ratios, a tie being broken in the same way wherever it occurs, and so
does rounding as a whole. A rounded ratio that is at most one is therefore at most one, and only
zero is rounded to zero.

## Main definitions

* `Binary64.toRat`: the number itself
* `Binary64.IsCounted`: a ratio is counted in units, and rounded to a whole number of them

## Main results

* `roundDiv_mono`: a greater ratio is not rounded to a smaller whole number
* `Binary64.exists_isCounted`: a rounded ratio is a whole number of units
* `Binary64.toRat_ofRatio_mono`: a greater ratio is not rounded to a smaller number
* `Binary64.toRat_div_le_one`: a rounded quotient is at most one if the exact one is
-/

namespace ConverterKit

/-! ## Whole numbers -/

/-- A tie goes to the even number, whatever the ratio is that makes the tie. -/
theorem roundDiv_of_two_mul_eq {num den k : Nat} (hden : 0 < den)
    (h : 2 * num = (2 * k + 1) * den) : roundDiv num den = if k % 2 = 0 then k else k + 1 := by
  have hsplit : 2 * num = 2 * (k * den) + den := by rw [h]; ring
  have hdiv : num / den = k := by
    rw [Nat.div_eq_iff hden]
    omega
  have hmod : 2 * (num % den) = den := by
    have hnum := Nat.div_add_mod' num den
    rw [hdiv] at hnum
    omega
  simp only [roundDiv, hdiv, hmod, lt_irrefl, if_false]

/-- A whole number stays as it is. -/
theorem roundDiv_mul_right (k : Nat) {den : Nat} (hden : 0 < den) :
    roundDiv (k * den) den = k := by
  simp only [roundDiv, Nat.mul_div_cancel k hden, Nat.mul_mod_left, Nat.mul_zero, hden, if_true]

/-- **A greater ratio is not rounded to a smaller whole number.** -/
theorem roundDiv_mono {num den num' den' : Nat} (hden : 0 < den) (hden' : 0 < den')
    (h : num * den' ≤ num' * den) : roundDiv num den ≤ roundDiv num' den' := by
  by_contra! hlt
  obtain ⟨k, hk⟩ : ∃ k, roundDiv num' den' = k := ⟨_, rfl⟩
  rw [hk] at hlt
  have hupper : 2 * num' ≤ (2 * k + 1) * den' := by
    have hround := le_two_mul_roundDiv_mul num' hden'
    rw [hk] at hround
    linarith
  have hlower : (2 * k + 1) * den ≤ 2 * num := by
    have hround := two_mul_roundDiv_mul_le num den
    have hstep := Nat.mul_le_mul_right den (Nat.succ_le_of_lt hlt)
    rw [Nat.succ_mul] at hstep
    linarith
  -- both ratios lie in the middle between `k` and `k + 1`, where they are rounded alike
  have hchain : (2 * k + 1) * den * den' = 2 * num * den' ∧
      2 * num' * den = (2 * k + 1) * den' * den := by
    have hleft := Nat.mul_le_mul_right den' hlower
    have hright := Nat.mul_le_mul_right den hupper
    constructor <;> linarith
  have hnum := roundDiv_of_two_mul_eq hden (Nat.eq_of_mul_eq_mul_right hden' hchain.1).symm
  have hnum' := roundDiv_of_two_mul_eq hden' (Nat.eq_of_mul_eq_mul_right hden hchain.2)
  omega

namespace Binary64

/-! ## Units -/

/-- The number itself. -/
def toRat (x : Binary64) : ℚ := x.significand * 2 ^ x.exponent

theorem toRat_nonneg (x : Binary64) : 0 ≤ x.toRat := by
  unfold toRat
  positivity

/-- A ratio is counted in units of `2 ^ e`: there are `2 ^ 52` of them or more, but less than
`2 ^ 53`, and rounded to a whole number they are `n`. -/
structure IsCounted (x : ℚ) (e : Int) (n : Nat) : Prop where
  le : 2 ^ 52 * 2 ^ e ≤ x
  lt : x < 2 ^ 53 * 2 ^ e
  rounded : ∃ num den : Nat, 0 < den ∧ (num : ℚ) / den = x / 2 ^ e ∧ n = roundDiv num den

/-- Shifting the one or the other number of a ratio counts the ratio in units. -/
theorem shifted_div (num den : Nat) (e : Int) :
    ((num <<< (-e).toNat : Nat) : ℚ) / (den <<< e.toNat : Nat) = num / den / 2 ^ e := by
  have hunit : (2 : ℚ) ^ e = 2 ^ e.toNat / 2 ^ (-e).toNat := by
    rw [eq_div_iff (by positivity), ← zpow_natCast, ← zpow_natCast, ← zpow_add₀ two_ne_zero]
    congr 1
    omega
  rw [hunit, Nat.shiftLeft_eq, Nat.shiftLeft_eq]
  push_cast
  field_simp

/-- Two ratios are compared by crosswise products. -/
theorem div_le_div_iff_nat {num den num' den' : Nat} (hden : 0 < den) (hden' : 0 < den') :
    (num : ℚ) / den ≤ num' / den' ↔ num * den' ≤ num' * den := by
  rw [div_le_div_iff₀ (by exact_mod_cast hden) (by exact_mod_cast hden')]
  exact_mod_cast Iff.rfl

namespace IsCounted

variable {x y : ℚ} {e f : Int} {n m : Nat}

/-- A number of units with 53 digits is rounded to one between the least of them and the first
with 54 digits. -/
theorem mem (h : IsCounted x e n) : 2 ^ 52 ≤ n ∧ n ≤ 2 ^ 53 := by
  obtain ⟨num, den, hden, hx, rfl⟩ := h.rounded
  have hdenq : (0 : ℚ) < den := by exact_mod_cast hden
  have hle : 2 ^ 52 * den ≤ num := by
    have hle := (le_div_iff₀ (by positivity)).mpr h.le
    rw [← hx, le_div_iff₀ hdenq] at hle
    exact_mod_cast hle
  have hge : num ≤ 2 ^ 53 * den := by
    have hge := (div_lt_iff₀ (by positivity)).mpr h.lt
    rw [← hx, div_lt_iff₀ hdenq] at hge
    exact_mod_cast hge.le
  constructor
  · calc 2 ^ 52 = roundDiv (2 ^ 52 * den) den := (roundDiv_mul_right _ hden).symm
      _ ≤ roundDiv num den := roundDiv_mono hden hden (Nat.mul_le_mul_right den hle)
  · calc roundDiv num den ≤ roundDiv (2 ^ 53 * den) den :=
        roundDiv_mono hden hden (Nat.mul_le_mul_right den hge)
      _ = 2 ^ 53 := roundDiv_mul_right _ hden

/-- Of two ratios the smaller one is not counted in greater units. -/
theorem exponent_le (h : IsCounted x e n) (h' : IsCounted y f m) (hxy : x ≤ y) : e ≤ f := by
  by_contra! hlt
  have hunit : (2 : ℚ) ^ (f + 1) ≤ 2 ^ e := zpow_le_zpow_right₀ one_le_two (by omega)
  rw [zpow_add_one₀ two_ne_zero] at hunit
  have hle := h.le
  have hlt' := h'.lt
  linarith

/-- Counting and rounding keep the order. -/
theorem mono (h : IsCounted x e n) (h' : IsCounted y f m) (hxy : x ≤ y) :
    (n * 2 ^ e : ℚ) ≤ m * 2 ^ f := by
  rcases (h.exponent_le h' hxy).eq_or_lt with rfl | hlt
  · obtain ⟨num, den, hden, hx, rfl⟩ := h.rounded
    obtain ⟨num', den', hden', hy, rfl⟩ := h'.rounded
    have hratio : (num : ℚ) / den ≤ num' / den' := by
      rw [hx, hy]
      gcongr
    have hround := roundDiv_mono hden hden' ((div_le_div_iff_nat hden hden').mp hratio)
    gcongr
  · have hunit : (2 : ℚ) ^ (e + 1) ≤ 2 ^ f := zpow_le_zpow_right₀ one_le_two (by omega)
    rw [zpow_add_one₀ two_ne_zero] at hunit
    calc (n * 2 ^ e : ℚ) ≤ 2 ^ 53 * 2 ^ e := by
          gcongr
          exact_mod_cast h.mem.2
      _ = 2 ^ 52 * (2 ^ e * 2) := by ring
      _ ≤ 2 ^ 52 * 2 ^ f := by gcongr
      _ ≤ m * 2 ^ f := by
          gcongr
          exact_mod_cast h'.mem.1

end IsCounted

/-! ## Ratios -/

/-- The exponent that is tried first. -/
def guess (num den : Nat) : Int := (Nat.log2 num : Int) - Nat.log2 den - 52

/-- The exponent of the units. -/
def unit (num den : Nat) : Int :=
  if num <<< (-guess num den).toNat < den <<< (guess num den).toNat <<< 52 then guess num den - 1
  else guess num den

theorem ofRatio_eq {num : Nat} (hnum : num ≠ 0) (den : Nat) :
    ofRatio num den =
      let n := roundDiv (num <<< (-unit num den).toNat) (den <<< (unit num den).toNat)
      if n = 1 <<< 53 then ⟨1 <<< 52, unit num den + 1⟩ else ⟨n, unit num den⟩ :=
  if_neg hnum

/-- The exponent that is tried first is right or too great by one. -/
theorem guess_spec {num den : Nat} (hnum : 0 < num) (hden : 0 < den) :
    (2 ^ 51 * 2 ^ guess num den : ℚ) ≤ num / den ∧
      (num / den : ℚ) < 2 ^ 53 * 2 ^ guess num den := by
  have hdenq : (0 : ℚ) < den := by exact_mod_cast hden
  have hnumLow : ((2 : ℚ) ^ num.log2) ≤ num := by exact_mod_cast Nat.log2_self_le hnum.ne'
  have hnumHigh : (num : ℚ) < 2 ^ num.log2 * 2 := by
    exact_mod_cast pow_succ 2 num.log2 ▸ Nat.lt_log2_self
  have hdenLow : ((2 : ℚ) ^ den.log2) ≤ den := by exact_mod_cast Nat.log2_self_le hden.ne'
  have hdenHigh : (den : ℚ) < 2 ^ den.log2 * 2 := by
    exact_mod_cast pow_succ 2 den.log2 ▸ Nat.lt_log2_self
  have hguess : (2 : ℚ) ^ guess num den * 2 ^ 52 * 2 ^ den.log2 = 2 ^ num.log2 := by
    rw [← zpow_natCast, ← zpow_natCast, ← zpow_natCast, ← zpow_add₀ two_ne_zero,
      ← zpow_add₀ two_ne_zero, guess]
    congr 1
    push_cast
    ring
  have hpos : (0 : ℚ) < 2 ^ guess num den := by positivity
  constructor
  · rw [le_div_iff₀ hdenq]
    nlinarith
  · rw [div_lt_iff₀ hdenq]
    nlinarith

/-- The exponent of the units gives 53 digits. -/
theorem unit_spec {num den : Nat} (hnum : 0 < num) (hden : 0 < den) :
    (2 ^ 52 * 2 ^ unit num den : ℚ) ≤ num / den ∧ (num / den : ℚ) < 2 ^ 53 * 2 ^ unit num den := by
  obtain ⟨hlow, hhigh⟩ := guess_spec hnum hden
  have hshift : 0 < den <<< (guess num den).toNat := by
    rw [Nat.shiftLeft_eq]
    positivity
  have hless : num <<< (-guess num den).toNat < den <<< (guess num den).toNat <<< 52 ↔
      (num / den : ℚ) < 2 ^ 52 * 2 ^ guess num den := by
    rw [← div_lt_iff₀ (by positivity), ← shifted_div, div_lt_iff₀ (by exact_mod_cast hshift),
      Nat.shiftLeft_eq _ 52, mul_comm (2 ^ 52 : ℚ)]
    exact_mod_cast Iff.rfl
  have hhalf : (2 : ℚ) ^ (guess num den - 1) * 2 = 2 ^ guess num den := by
    rw [← zpow_add_one₀ two_ne_zero, sub_add_cancel]
  unfold unit
  split
  · next h =>
    have hlt := hless.mp h
    constructor <;> linarith
  · next h => exact ⟨not_lt.mp fun hlt => h (hless.mpr hlt), hhigh⟩

/-- **A rounded ratio is a whole number of units.** -/
theorem exists_isCounted {num den : Nat} (hnum : 0 < num) (hden : 0 < den) :
    ∃ e n, IsCounted (num / den) e n ∧ (ofRatio num den).toRat = n * 2 ^ e := by
  obtain ⟨hle, hlt⟩ := unit_spec hnum hden
  have hshift : 0 < den <<< (unit num den).toNat := by
    rw [Nat.shiftLeft_eq]
    positivity
  refine ⟨unit num den, _, ⟨hle, hlt, _, _, hshift, shifted_div num den _, rfl⟩, ?_⟩
  rw [ofRatio_eq hnum.ne']
  dsimp only
  split
  · next hcarry =>
    -- a carry doubles the unit and halves their number
    rw [hcarry, toRat, zpow_add_one₀ two_ne_zero, Nat.shiftLeft_eq, Nat.shiftLeft_eq]
    push_cast
    ring
  · rw [toRat]

theorem toRat_zero : zero.toRat = 0 := by
  rw [toRat, zero, Nat.cast_zero, zero_mul]

theorem toRat_ofRatio_zero (den : Nat) : (ofRatio 0 den).toRat = 0 := by
  have hzero : ofRatio 0 den = zero := if_pos rfl
  rw [hzero, toRat_zero]

/-- Only zero is rounded to zero. -/
theorem toRat_ofRatio_pos {num den : Nat} (hnum : 0 < num) (hden : 0 < den) :
    0 < (ofRatio num den).toRat := by
  obtain ⟨e, n, hcounted, hvalue⟩ := exists_isCounted hnum hden
  have hn : (0 : ℚ) < n := by exact_mod_cast (by decide : 0 < 2 ^ 52).trans_le hcounted.mem.1
  rw [hvalue]
  positivity

/-- **A greater ratio is not rounded to a smaller number.** -/
theorem toRat_ofRatio_mono {num den num' den' : Nat} (hden : 0 < den) (hden' : 0 < den')
    (h : (num : ℚ) / den ≤ num' / den') : (ofRatio num den).toRat ≤ (ofRatio num' den').toRat := by
  rcases num.eq_zero_or_pos with rfl | hnum
  · rw [toRat_ofRatio_zero]
    exact toRat_nonneg _
  have hnum' : 0 < num' := by
    have hcross := (div_le_div_iff_nat hden hden').mp h
    exact Nat.pos_of_mul_pos_right ((Nat.mul_pos hnum hden').trans_le hcross)
  obtain ⟨e, n, hcounted, hvalue⟩ := exists_isCounted hnum hden
  obtain ⟨f, m, hcounted', hvalue'⟩ := exists_isCounted hnum' hden'
  rw [hvalue, hvalue']
  exact hcounted.mono hcounted' h

theorem toRat_ofRatio_one : (ofRatio 1 1).toRat = 1 := by
  have hone : ofRatio 1 1 = ⟨2 ^ 52, -52⟩ := by decide +kernel
  rw [hone]
  norm_num [toRat]

/-! ## Natural numbers and quotients -/

theorem toRat_ofNat_mono {n m : Nat} (h : n ≤ m) : (ofNat n).toRat ≤ (ofNat m).toRat :=
  toRat_ofRatio_mono one_pos one_pos (by gcongr)

theorem toRat_ofNat_pos {n : Nat} (h : 0 < n) : 0 < (ofNat n).toRat :=
  toRat_ofRatio_pos h one_pos

variable {a b : Binary64}

theorem significand_pos (h : 0 < a.toRat) : 0 < a.significand := by
  refine Nat.pos_of_ne_zero fun hzero => h.ne' ?_
  rw [toRat, hzero, Nat.cast_zero, zero_mul]

/-- A quotient is rounded from the exact one. -/
theorem shifted_div_shifted (a b : Binary64) :
    ((a.significand <<< (a.exponent - b.exponent).toNat : Nat) : ℚ) /
      (b.significand <<< (-(a.exponent - b.exponent)).toNat : Nat) = a.toRat / b.toRat := by
  have h := shifted_div a.significand b.significand (-(a.exponent - b.exponent))
  rw [neg_neg] at h
  rw [h, toRat, toRat, zpow_neg, zpow_sub₀ two_ne_zero]
  field_simp

theorem shifted_pos (h : 0 < a.toRat) (k : Nat) : 0 < a.significand <<< k :=
  Nat.shiftLeft_pos_iff.mpr (significand_pos h)

/-- A rounded quotient of numbers other than zero is not zero. -/
theorem toRat_div_pos (ha : 0 < a.toRat) (hb : 0 < b.toRat) : 0 < (a.div b).toRat :=
  toRat_ofRatio_pos (shifted_pos ha _) (shifted_pos hb _)

theorem toRat_div_of_eq_zero (ha : a.significand = 0) (b : Binary64) : (a.div b).toRat = 0 := by
  rw [div, ha, Nat.zero_shiftLeft]
  exact toRat_ofRatio_zero _

/-- A rounded quotient is at most one if the exact one is. -/
theorem toRat_div_le_one (hb : 0 < b.toRat) (h : a.toRat ≤ b.toRat) : (a.div b).toRat ≤ 1 := by
  rw [← toRat_ofRatio_one]
  refine toRat_ofRatio_mono (shifted_pos hb _) one_pos ?_
  rw [shifted_div_shifted]
  simpa using div_le_one_of_le₀ h hb.le

end Binary64

end ConverterKit
