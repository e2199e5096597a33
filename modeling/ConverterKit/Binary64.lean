/-!
# Rounding to binary64

A ratio of two natural numbers, rounded to the nearest IEEE 754 binary64 number, ties going to the
even significand. The result is a significand and a power of two, so everything about it can be
said in whole numbers; `Binary64.bits` is the interchange encoding.

Only what a ratio of 64-bit counts can need is covered: zero and normal numbers. The quotient of
two such counts lies between `2 ^ (-64)` and `2 ^ 64`, far from the subnormal numbers and from
infinity.

## Main definitions

* `roundDiv`: a quotient rounded to a whole number
* `Binary64.ofNat`, `Binary64.ofRatio`: the nearest number to a natural number or a ratio
* `Binary64.bits`: sign, exponent and fraction in one word

## Main results

* `two_mul_roundDiv_mul_le`, `le_two_mul_roundDiv_mul`: a rounded quotient is off by at most a half
-/

namespace ConverterKit

/-- The whole number nearest to `num / den`, a tie going to the even one. -/
def roundDiv (num den : Nat) : Nat :=
  let q := num / den
  let twice := 2 * (num % den)
  if twice < den then q
  else if den < twice then q + 1
  else if q % 2 = 0 then q else q + 1

/-- A rounded quotient is at most half a unit above the exact one. -/
theorem two_mul_roundDiv_mul_le (num den : Nat) :
    2 * (roundDiv num den * den) ≤ 2 * num + den := by
  have h := Nat.div_add_mod num den
  rw [Nat.mul_comm] at h
  simp only [roundDiv]
  split
  · omega
  · split
    · rw [Nat.add_mul]; omega
    · split
      · omega
      · rw [Nat.add_mul]; omega

/-- A rounded quotient is at most half a unit below the exact one. -/
theorem le_two_mul_roundDiv_mul (num : Nat) {den : Nat} (hden : 0 < den) :
    2 * num ≤ 2 * (roundDiv num den * den) + den := by
  have h := Nat.div_add_mod num den
  have hlt := Nat.mod_lt num hden
  rw [Nat.mul_comm] at h
  simp only [roundDiv]
  split
  · omega
  · split
    · rw [Nat.add_mul]; omega
    · split
      · omega
      · rw [Nat.add_mul]; omega

/-- The number `significand * 2 ^ exponent`. A nonzero number in normal form has a significand of
exactly 53 binary digits; zero has significand zero. -/
structure Binary64 where
  significand : Nat
  exponent : Int
deriving DecidableEq

namespace Binary64

/-- Zero. -/
def zero : Binary64 := ⟨0, 0⟩

/-- The binary64 number nearest to `num / den`, for a positive denominator; ties go to the even
significand. The exponent is chosen so that the scaled quotient has 53 binary digits before it is
rounded; rounding up to `2 ^ 53` moves it once more. -/
def ofRatio (num den : Nat) : Binary64 :=
  if num = 0 then zero else
    let scaled (e : Int) : Nat × Nat := (num <<< (-e).toNat, den <<< e.toNat)
    let guess : Int := (Nat.log2 num : Int) - Nat.log2 den - 52
    let (n, d) := scaled guess
    let exponent := if n < d <<< 52 then guess - 1 else guess
    let (n, d) := scaled exponent
    let significand := roundDiv n d
    if significand = 1 <<< 53 then ⟨1 <<< 52, exponent + 1⟩ else ⟨significand, exponent⟩

/-- The binary64 number nearest to a natural number. -/
def ofNat (n : Nat) : Binary64 := ofRatio n 1

/-- The nearest binary64 number to the quotient of two; a quotient by zero is not defined by this
function and is not asked for. -/
def div (a b : Binary64) : Binary64 :=
  let e := a.exponent - b.exponent
  ofRatio (a.significand <<< e.toNat) (b.significand <<< (-e).toNat)

/-- The interchange encoding of a nonnegative number: eleven bits of exponent with bias 1075 for a
significand read as a whole number, then the 52 bits below the leading one. -/
def bits (x : Binary64) : UInt64 :=
  if x.significand = 0 then 0
  else UInt64.ofNat ((x.exponent + 1075).toNat <<< 52 + (x.significand - 1 <<< 52))

end Binary64

end ConverterKit
