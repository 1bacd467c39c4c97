import Mathlib.Data.Rat.Floor
import Mathlib.Data.Int.Log

/-!
# Rounded arithmetic

A floating-point operation is the exact operation on rationals followed by rounding to a number of
significant digits in some base, to fewer where the format has no smaller exponents.
-/

namespace EdaGym

/-- The nearest integer, ties going to the even one. -/
def roundHalfEven (x : ℚ) : ℤ :=
  let low := ⌊x⌋
  let rest := x - low
  if rest < 1 / 2 then low
  else if 1 / 2 < rest then low + 1
  else if low % 2 = 0 then low
  else low + 1

/-- The nearest number with the given number of significant digits. -/
def roundSignificant (base digits : Nat) (x : ℚ) : ℚ :=
  if x = 0 then 0
  else
    let exponent := Int.log base |x| + 1 - digits
    roundHalfEven (x / (base : ℚ) ^ exponent) * (base : ℚ) ^ exponent

lemma roundHalfEven_nonneg {x : ℚ} (h : 0 ≤ x) : 0 ≤ roundHalfEven x := by
  have hfloor : 0 ≤ ⌊x⌋ := Int.floor_nonneg.mpr h
  unfold roundHalfEven
  dsimp only
  split_ifs <;> omega

lemma roundSignificant_nonneg {base digits : Nat} {x : ℚ} (h : 0 ≤ x) :
    0 ≤ roundSignificant base digits x := by
  unfold roundSignificant
  split_ifs
  · exact le_rfl
  · have hpow : (0 : ℚ) ≤ (base : ℚ) ^ (Int.log base |x| + 1 - digits) :=
      zpow_nonneg (Nat.cast_nonneg base) _
    exact mul_nonneg (Int.cast_nonneg (roundHalfEven_nonneg (div_nonneg h hpow))) hpow

/-- A format of significant digits in a base, with the exponents that the first digit of a number
may have; below them digits are lost. -/
structure FloatFormat where
  base : Nat
  digits : Nat
  minExponent : ℤ
  maxExponent : ℤ

/-- The nearest number of a format, unless the format has none that large. -/
def FloatFormat.round (f : FloatFormat) (x : ℚ) : Option ℚ :=
  let place := max (Int.log f.base |x|) f.minExponent + 1 - f.digits
  let rounded := roundHalfEven (x / (f.base : ℚ) ^ place) * (f.base : ℚ) ^ place
  if Int.log f.base |rounded| ≤ f.maxExponent then some rounded else none

/-- `decimal.Context` with a precision and the default exponents. -/
def decimalContext (precision : Nat) : FloatFormat := ⟨10, precision, -999999, 999999⟩

/-- What is raised where a decimal context has no number that large. -/
def DECIMAL_OVERFLOW : String := "[<class 'decimal.Overflow'>]"

/-- The nearest number of IEEE 754 binary64 of a number in its normal range. -/
def toDouble (x : ℚ) : ℚ := roundSignificant 2 53 x

example : toDouble (1 / 10) = 3602879701896397 / 36028797018963968 := by decide +kernel

end EdaGym
