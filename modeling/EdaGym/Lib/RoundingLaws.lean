import EdaGym.Lib.Rounding
import Mathlib.Algebra.Order.Round
import Mathlib.Tactic.Linarith

/-!
# Laws of rounded arithmetic

Rounding keeps the order and moves no number of the format. Both follow from the integer that a
number is rounded to: one at most a half away, an even one when there are two.
-/

namespace EdaGym

lemma roundHalfEven_spec (x : ℚ) :
    |x - roundHalfEven x| ≤ 1 / 2 ∧ (|x - roundHalfEven x| = 1 / 2 → Even (roundHalfEven x)) := by
  have hlow := Int.floor_le x
  have hhigh := Int.lt_floor_add_one x
  unfold roundHalfEven
  dsimp only
  split_ifs with hbelow habove heven
  · rw [abs_of_nonneg (by linarith)]
    exact ⟨hbelow.le, fun h => absurd h hbelow.ne⟩
  · push_cast
    rw [abs_of_nonpos (by linarith)]
    exact ⟨by linarith, fun h => by linarith⟩
  · rw [abs_of_nonneg (by linarith)]
    exact ⟨not_lt.mp habove, fun _ => Int.even_iff.mpr heven⟩
  · push_cast
    rw [abs_of_nonpos (by linarith)]
    refine ⟨by linarith, fun _ => ?_⟩
    rw [Int.even_iff]
    omega

lemma roundHalfEven_unique {x : ℚ} {n : ℤ} (h : |x - n| ≤ 1 / 2)
    (heven : |x - n| = 1 / 2 → Even n) : roundHalfEven x = n := by
  obtain ⟨hround, hroundEven⟩ := roundHalfEven_spec x
  have hclose : |(roundHalfEven x : ℚ) - n| ≤ 1 := by
    have := abs_sub_abs_le_abs_sub x n
    rw [abs_le] at *
    constructor <;> linarith
  have hint : |roundHalfEven x - n| ≤ 1 := by exact_mod_cast hclose
  by_contra hne
  have hone : roundHalfEven x = n + 1 ∨ n = roundHalfEven x + 1 := by
    rw [abs_le] at hint
    omega
  -- both are a half away, so both would be even
  have hhalf : |x - n| = 1 / 2 ∧ |x - roundHalfEven x| = 1 / 2 := by
    rcases hone with hone | hone
    · rw [hone] at hround ⊢
      push_cast at hround ⊢
      rw [abs_le] at h hround
      exact ⟨by rw [abs_of_nonneg] <;> linarith, by rw [abs_of_nonpos] <;> linarith⟩
    · rw [hone] at h ⊢
      push_cast at h ⊢
      rw [abs_le] at h hround
      exact ⟨by rw [abs_of_nonpos] <;> linarith, by rw [abs_of_nonneg] <;> linarith⟩
  have hn := Int.even_iff.mp (heven hhalf.1)
  have hr := Int.even_iff.mp (hroundEven hhalf.2)
  omega

@[simp] lemma roundHalfEven_intCast (n : ℤ) : roundHalfEven n = n :=
  roundHalfEven_unique (by simp) (by norm_num)

lemma roundHalfEven_neg (x : ℚ) : roundHalfEven (-x) = -roundHalfEven x := by
  obtain ⟨h, heven⟩ := roundHalfEven_spec x
  have habs : |-x - (-roundHalfEven x : ℤ)| = |x - roundHalfEven x| := by
    rw [← abs_neg]
    push_cast
    ring_nf
  exact roundHalfEven_unique (by rwa [habs]) fun hhalf => (heven (habs ▸ hhalf)).neg

lemma roundHalfEven_mono {x y : ℚ} (h : x ≤ y) : roundHalfEven x ≤ roundHalfEven y := by
  by_contra hlt
  have hle : (roundHalfEven y : ℚ) + 1 ≤ roundHalfEven x := by exact_mod_cast not_le.mp hlt
  have hx := abs_le.mp (roundHalfEven_spec x).1
  have hy := abs_le.mp (roundHalfEven_spec y).1
  have hxy : x = y := by linarith
  exact hlt (by rw [hxy])

lemma roundHalfEven_le {x : ℚ} {n : ℤ} (h : x ≤ n) : roundHalfEven x ≤ n := by
  have := roundHalfEven_mono h
  rwa [roundHalfEven_intCast] at this

lemma le_roundHalfEven {x : ℚ} {n : ℤ} (h : n ≤ x) : n ≤ roundHalfEven x := by
  have := roundHalfEven_mono h
  rwa [roundHalfEven_intCast] at this

/-! ### The numbers of a format -/

variable {base digits : Nat} {x y : ℚ}

/-- A number with that many significant digits, none of them behind a place. -/
def RepresentableAt (base digits : Nat) (place : ℤ) (x : ℚ) : Prop :=
  ∃ m e : ℤ, |m| < (base : ℤ) ^ digits ∧ place ≤ e ∧ x = m * (base : ℚ) ^ e

lemma representableAt_zero (hbase : 1 < base) (place : ℤ) : RepresentableAt base digits place 0 :=
  ⟨0, place, by simpa using pow_pos (by omega : (0 : ℤ) < base) digits, le_rfl, by simp⟩

/-- The place of the last digit that is kept. -/
def lastPlace (base digits : Nat) (x : ℚ) : ℤ := Int.log base |x| + 1 - digits

lemma roundSignificant_of_ne (h : x ≠ 0) :
    roundSignificant base digits x =
      roundHalfEven (x / (base : ℚ) ^ lastPlace base digits x) *
        (base : ℚ) ^ lastPlace base digits x := by
  rw [roundSignificant, if_neg h]
  rfl

lemma zpow_base_pos (hbase : 1 < base) (e : ℤ) : (0 : ℚ) < (base : ℚ) ^ e :=
  zpow_pos (by exact_mod_cast (by omega : 0 < base)) e

lemma roundSignificant_of_representable (hbase : 1 < base) {place : ℤ}
    (h : RepresentableAt base digits place x) : roundSignificant base digits x = x := by
  by_cases hx : x = 0
  · rw [hx, roundSignificant, if_pos rfl]
  obtain ⟨m, e, hm, -, heq⟩ := h
  have hb : (base : ℚ) ≠ 0 := by exact_mod_cast (by omega : base ≠ 0)
  have hplace : lastPlace base digits x ≤ e := by
    have hlt : |x| < (base : ℚ) ^ (digits + e : ℤ) := by
      rw [heq, abs_mul, abs_of_pos (zpow_base_pos hbase e), zpow_add₀ hb, zpow_natCast]
      exact mul_lt_mul_of_pos_right (by exact_mod_cast hm) (zpow_base_pos hbase e)
    have := (Int.lt_zpow_iff_log_lt hbase (abs_pos.mpr hx)).mp hlt
    unfold lastPlace
    omega
  obtain ⟨k, hk⟩ := Int.le.dest hplace
  have hquot : x / (base : ℚ) ^ lastPlace base digits x = (m * base ^ k : ℤ) := by
    have hsplit : (base : ℚ) ^ e = base ^ k * (base : ℚ) ^ lastPlace base digits x := by
      rw [← hk, zpow_add₀ hb, zpow_natCast, mul_comm]
    rw [div_eq_iff (zpow_base_pos hbase _).ne']
    push_cast
    rw [mul_assoc, ← hsplit, heq]
  rw [roundSignificant_of_ne hx, hquot, roundHalfEven_intCast, ← hquot,
    div_mul_cancel₀ _ (zpow_base_pos hbase _).ne']

lemma abs_sub_roundSignificant_le (hbase : 1 < base) (hx : x ≠ 0) :
    |x - roundSignificant base digits x| ≤ (base : ℚ) ^ lastPlace base digits x / 2 := by
  have hpos := zpow_base_pos hbase (lastPlace base digits x)
  rw [roundSignificant_of_ne hx]
  nth_rewrite 1 [← div_mul_cancel₀ x hpos.ne']
  rw [← sub_mul, abs_mul, abs_of_pos hpos]
  have := mul_le_mul_of_nonneg_right
    (roundHalfEven_spec (x / (base : ℚ) ^ lastPlace base digits x)).1 hpos.le
  linarith

lemma abs_div_lastPlace_lt (hbase : 1 < base) (x : ℚ) :
    |x / (base : ℚ) ^ lastPlace base digits x| < (base : ℚ) ^ digits := by
  have hb : (base : ℚ) ≠ 0 := by exact_mod_cast (by omega : base ≠ 0)
  rw [abs_div, abs_of_pos (zpow_base_pos hbase _), div_lt_iff₀ (zpow_base_pos hbase _),
    ← zpow_natCast, ← zpow_add₀ hb]
  have := Int.lt_zpow_succ_log_self hbase |x|
  rwa [show (digits : ℤ) + lastPlace base digits x = Int.log base |x| + 1 by
    unfold lastPlace; omega]

/-- A result that needs one digit more is a power of the base. -/
lemma representable_roundSignificant (hbase : 1 < base) (hdigits : 0 < digits) (x : ℚ) :
    RepresentableAt base digits (lastPlace base digits x) (roundSignificant base digits x) := by
  by_cases hx : x = 0
  · rw [hx, roundSignificant, if_pos rfl]
    exact representableAt_zero hbase _
  have hb : (base : ℚ) ≠ 0 := by exact_mod_cast (by omega : base ≠ 0)
  have hquot := abs_lt.mp (@abs_div_lastPlace_lt base digits hbase x)
  have hcast : ((base ^ digits : ℤ) : ℚ) = (base : ℚ) ^ digits := by push_cast; rfl
  have hupper := @roundHalfEven_le (x / _) (base ^ digits) (hcast ▸ hquot.2.le)
  have hlower := @le_roundHalfEven (x / _) (-base ^ digits) (by
    rw [Int.cast_neg, hcast]
    exact hquot.1.le)
  rw [roundSignificant_of_ne hx]
  rcases (abs_le.mpr ⟨hlower, hupper⟩).lt_or_eq with hlt | heq
  · exact ⟨_, _, hlt, le_rfl, rfl⟩
  · have hone : |(1 : ℤ)| < (base : ℤ) ^ digits := by
      rw [abs_one]
      exact_mod_cast Nat.one_lt_pow hdigits.ne' hbase
    have hshift : (base : ℚ) ^ digits * (base : ℚ) ^ lastPlace base digits x =
        (base : ℚ) ^ (digits + lastPlace base digits x) := by
      rw [zpow_add₀ hb, zpow_natCast]
    rcases (abs_eq (by positivity)).mp heq with heq | heq
    · exact ⟨1, digits + lastPlace base digits x, hone, by omega, by rw [heq, hcast, hshift]; simp⟩
    · refine ⟨-1, digits + lastPlace base digits x, by rwa [abs_neg], by omega, ?_⟩
      rw [heq, Int.cast_neg, hcast, neg_mul, hshift]
      simp

lemma roundSignificant_neg (x : ℚ) :
    roundSignificant base digits (-x) = -roundSignificant base digits x := by
  by_cases hx : x = 0
  · simp [hx, roundSignificant]
  · have hplace : lastPlace base digits (-x) = lastPlace base digits x := by
      rw [lastPlace, abs_neg, lastPlace]
    rw [roundSignificant_of_ne hx, roundSignificant_of_ne (neg_ne_zero.mpr hx), hplace, neg_div,
      roundHalfEven_neg]
    push_cast
    ring

lemma abs_roundSignificant (x : ℚ) :
    |roundSignificant base digits x| = roundSignificant base digits |x| := by
  rcases le_total 0 x with hx | hx
  · rw [abs_of_nonneg hx, abs_of_nonneg (roundSignificant_nonneg hx)]
  · have := @roundSignificant_nonneg base digits (-x) (neg_nonneg.mpr hx)
    rw [abs_of_nonpos hx, roundSignificant_neg, abs_of_nonpos]
    rwa [roundSignificant_neg, neg_nonneg] at this

lemma roundSignificant_nonpos (h : x ≤ 0) : roundSignificant base digits x ≤ 0 := by
  have := @roundSignificant_nonneg base digits (-x) (neg_nonneg.mpr h)
  rwa [roundSignificant_neg, neg_nonneg] at this

/-- Between numbers of one magnitude the places agree, and a power of the base separates two. -/
lemma roundSignificant_mono_pos (hbase : 1 < base) (hdigits : 0 < digits) (hx : 0 < x)
    (h : x ≤ y) : roundSignificant base digits x ≤ roundSignificant base digits y := by
  have hb : (base : ℚ) ≠ 0 := by exact_mod_cast (by omega : base ≠ 0)
  have hy := hx.trans_le h
  rw [roundSignificant_of_ne hx.ne', roundSignificant_of_ne hy.ne']
  rcases (Int.log_mono_right hx h : Int.log base x ≤ Int.log base y).eq_or_lt with hlog | hlog
  · have hplace : lastPlace base digits x = lastPlace base digits y := by
      rw [lastPlace, abs_of_pos hx, lastPlace, abs_of_pos hy, hlog]
    rw [hplace]
    refine mul_le_mul_of_nonneg_right ?_ (zpow_base_pos hbase _).le
    exact_mod_cast roundHalfEven_mono (div_le_div_of_nonneg_right h (zpow_base_pos hbase _).le)
  · -- `x` rounds to at most the power of the base that `y` is not below
    have hleft : (roundHalfEven (x / (base : ℚ) ^ lastPlace base digits x) : ℚ) ≤
        (base : ℚ) ^ digits := by
      have hquot := (abs_lt.mp (@abs_div_lastPlace_lt base digits hbase x)).2.le
      exact_mod_cast @roundHalfEven_le _ (base ^ digits) (by exact_mod_cast hquot)
    have hright : (base : ℚ) ^ (digits - 1) ≤
        roundHalfEven (y / (base : ℚ) ^ lastPlace base digits y) := by
      have hquot : (base : ℚ) ^ (digits - 1) ≤ y / (base : ℚ) ^ lastPlace base digits y := by
        rw [le_div_iff₀ (zpow_base_pos hbase _), ← zpow_natCast, ← zpow_add₀ hb,
          show ((digits - 1 : ℕ) : ℤ) + lastPlace base digits y = Int.log base y by
            rw [lastPlace, abs_of_pos hy]; omega]
        exact Int.zpow_log_le_self hbase hy
      exact_mod_cast @le_roundHalfEven _ (base ^ (digits - 1)) (by exact_mod_cast hquot)
    calc _ ≤ (base : ℚ) ^ digits * (base : ℚ) ^ lastPlace base digits x :=
          mul_le_mul_of_nonneg_right hleft (zpow_base_pos hbase _).le
      _ = (base : ℚ) ^ (Int.log base x + 1) := by
          rw [← zpow_natCast, ← zpow_add₀ hb, lastPlace, abs_of_pos hx]
          congr 1
          omega
      _ ≤ (base : ℚ) ^ Int.log base y :=
          zpow_le_zpow_right₀ (by exact_mod_cast hbase.le) hlog
      _ = (base : ℚ) ^ (digits - 1) * (base : ℚ) ^ lastPlace base digits y := by
          rw [← zpow_natCast, ← zpow_add₀ hb, lastPlace, abs_of_pos hy]
          congr 1
          omega
      _ ≤ _ := mul_le_mul_of_nonneg_right hright (zpow_base_pos hbase _).le

theorem roundSignificant_mono (hbase : 1 < base) (hdigits : 0 < digits) (h : x ≤ y) :
    roundSignificant base digits x ≤ roundSignificant base digits y := by
  rcases lt_or_ge 0 x with hx | hx
  · exact roundSignificant_mono_pos hbase hdigits hx h
  · rcases lt_or_ge y 0 with hy | hy
    · have := roundSignificant_mono_pos hbase hdigits (neg_pos.mpr hy) (neg_le_neg h)
      rwa [roundSignificant_neg, roundSignificant_neg, neg_le_neg_iff] at this
    · exact (roundSignificant_nonpos hx).trans (roundSignificant_nonneg hy)

/-! ### Formats with bounded exponents -/

/-- The nearest number without digits behind a place. -/
def roundAt (base : Nat) (place : ℤ) (x : ℚ) : ℚ :=
  roundHalfEven (x / (base : ℚ) ^ place) * (base : ℚ) ^ place

lemma roundAt_unique (hbase : 1 < base) {place n : ℤ}
    (h : |x - n * (base : ℚ) ^ place| < (base : ℚ) ^ place / 2) :
    roundAt base place x = n * (base : ℚ) ^ place := by
  have hpos := zpow_base_pos hbase place
  have hclose : |x / (base : ℚ) ^ place - n| < 1 / 2 := by
    rw [div_sub' hpos.ne', abs_div, abs_of_pos hpos, div_lt_iff₀ hpos, mul_comm _ (n : ℚ)]
    linarith
  rw [roundAt, roundHalfEven_unique hclose.le fun heq => absurd heq hclose.ne]

lemma roundAt_mono (hbase : 1 < base) (place : ℤ) (h : x ≤ y) :
    roundAt base place x ≤ roundAt base place y := by
  have hpos := zpow_base_pos hbase place
  refine mul_le_mul_of_nonneg_right ?_ hpos.le
  exact_mod_cast roundHalfEven_mono (div_le_div_of_nonneg_right h hpos.le)

namespace FloatFormat

variable {f : FloatFormat}

/-- The place behind which the format has no digits. -/
def lowestPlace (f : FloatFormat) : ℤ := f.minExponent + 1 - f.digits

/-- The numbers of a format. -/
def IsNumber (f : FloatFormat) (x : ℚ) : Prop :=
  RepresentableAt f.base f.digits f.lowestPlace x ∧ |x| < (f.base : ℚ) ^ (f.maxExponent + 1)

/-- What a number is rounded to, however large it is. -/
def rounded (f : FloatFormat) (x : ℚ) : ℚ :=
  if f.lowestPlace ≤ lastPlace f.base f.digits x then roundSignificant f.base f.digits x
  else roundAt f.base f.lowestPlace x

lemma round_eq (f : FloatFormat) (x : ℚ) :
    f.round x =
      if Int.log f.base |f.rounded x| ≤ f.maxExponent then some (f.rounded x) else none := by
  have hrounded : f.rounded x = roundAt f.base (max (Int.log f.base |x|) f.minExponent + 1 -
      f.digits) x := by
    unfold rounded lowestPlace lastPlace
    split_ifs with hplace
    · rw [max_eq_left (by omega)]
      by_cases hx : x = 0
      · rw [hx, roundAt, zero_div, ← Int.cast_zero, roundHalfEven_intCast, roundSignificant,
          if_pos Int.cast_zero, Int.cast_zero, zero_mul]
      · rw [roundSignificant_of_ne hx]
        rfl
    · rw [max_eq_right (by omega)]
  rw [hrounded]
  rfl

/-- A format whose exponents are on both sides of zero. -/
structure Proper (f : FloatFormat) : Prop where
  base_gt : 1 < f.base
  digits_pos : 0 < f.digits
  min_nonpos : f.minExponent ≤ 0
  max_nonneg : 0 ≤ f.maxExponent

lemma decimalContext_proper {precision : Nat} (h : 0 < precision) :
    (decimalContext precision).Proper :=
  ⟨by simp [decimalContext], h, by simp [decimalContext], by simp [decimalContext]⟩

lemma log_le_iff (hf : f.Proper) :
    Int.log f.base |x| ≤ f.maxExponent ↔ |x| < (f.base : ℚ) ^ (f.maxExponent + 1) := by
  rcases (abs_nonneg x).eq_or_lt with hzero | hpos
  · rw [← hzero, Int.log_zero_right]
    exact iff_of_true hf.max_nonneg (zpow_base_pos hf.base_gt _)
  · rw [Int.lt_zpow_iff_log_lt hf.base_gt hpos, Int.lt_add_one_iff]

lemma representableAt_least (hf : f.Proper) :
    RepresentableAt f.base f.digits f.lowestPlace ((f.base : ℚ) ^ f.minExponent) := by
  have hdigits := hf.digits_pos
  refine ⟨1, f.minExponent, ?_, by unfold lowestPlace; omega, by simp⟩
  rw [abs_one]
  exact_mod_cast Nat.one_lt_pow hdigits.ne' hf.base_gt

lemma representableAt_rounded (hf : f.Proper) (x : ℚ) :
    RepresentableAt f.base f.digits f.lowestPlace (f.rounded x) := by
  unfold rounded
  split_ifs with hplace
  · obtain ⟨m, e, hm, he, heq⟩ := representable_roundSignificant hf.base_gt hf.digits_pos x
    exact ⟨m, e, hm, hplace.trans he, heq⟩
  · have hb : (f.base : ℚ) ≠ 0 := by exact_mod_cast (zero_lt_one.trans hf.base_gt).ne'
    have hpos := zpow_base_pos hf.base_gt f.lowestPlace
    -- the magnitude has fewer digits in front of the place
    have hsmall : |x / (f.base : ℚ) ^ f.lowestPlace| ≤ ((f.base ^ (f.digits - 1) : ℕ) : ℤ) := by
      have hlt := Int.lt_zpow_succ_log_self hf.base_gt |x|
      rw [abs_div, abs_of_pos hpos, div_le_iff₀ hpos]
      push_cast
      rw [← zpow_natCast, ← zpow_add₀ hb]
      refine hlt.le.trans (zpow_le_zpow_right₀ (by exact_mod_cast hf.base_gt.le) ?_)
      have := hf.digits_pos
      unfold lowestPlace lastPlace at *
      omega
    have hhigh := roundHalfEven_le (abs_le.mp hsmall).2
    have hlow := @le_roundHalfEven (x / _) (-(f.base ^ (f.digits - 1) : ℕ))
      (by rw [Int.cast_neg]; exact (abs_le.mp hsmall).1)
    refine ⟨_, _, (abs_le.mpr ⟨hlow, hhigh⟩).trans_lt ?_, le_rfl, rfl⟩
    exact_mod_cast Nat.pow_lt_pow_right hf.base_gt (Nat.sub_lt hf.digits_pos Nat.one_pos)

lemma rounded_eq_of_representable (hf : f.Proper)
    (h : RepresentableAt f.base f.digits f.lowestPlace x) : f.rounded x = x := by
  unfold rounded
  split_ifs
  · exact roundSignificant_of_representable hf.base_gt h
  · obtain ⟨m, e, -, he, heq⟩ := h
    obtain ⟨k, rfl⟩ := Int.le.dest he
    have hb : (f.base : ℚ) ≠ 0 := by exact_mod_cast (zero_lt_one.trans hf.base_gt).ne'
    have hsplit : x = (m * f.base ^ k : ℤ) * (f.base : ℚ) ^ f.lowestPlace := by
      rw [heq, zpow_add₀ hb, zpow_natCast]
      push_cast
      ring
    rw [hsplit]
    exact roundAt_unique hf.base_gt (by simpa using zpow_base_pos hf.base_gt _)

lemma round_eq_some_iff (hf : f.Proper) : f.round x = some y ↔
    f.rounded x = y ∧ |y| < (f.base : ℚ) ^ (f.maxExponent + 1) := by
  rw [round_eq]
  split_ifs with hlog
  · rw [Option.some.injEq]
    exact ⟨fun h => ⟨h, h ▸ (log_le_iff hf).mp hlog⟩, And.left⟩
  · refine iff_of_false (by simp) ?_
    rintro ⟨rfl, hlt⟩
    exact hlog ((log_le_iff hf).mpr hlt)

lemma IsNumber.round (hf : f.Proper) (h : f.IsNumber x) : f.round x = some x :=
  (round_eq_some_iff hf).mpr ⟨rounded_eq_of_representable hf h.1, h.2⟩

lemma isNumber_of_round (hf : f.Proper) (h : f.round x = some y) : f.IsNumber y := by
  obtain ⟨rfl, hlt⟩ := (round_eq_some_iff hf).mp h
  exact ⟨representableAt_rounded hf x, hlt⟩

/-- The bounds of the exponents make no difference exactly when the number of that many digits is
one of the format. -/
theorem round_eq_significant_iff (hf : f.Proper) (x : ℚ) :
    f.round x = some (roundSignificant f.base f.digits x) ↔
      f.IsNumber (roundSignificant f.base f.digits x) := by
  refine ⟨isNumber_of_round hf, fun h => (round_eq_some_iff hf).mpr ⟨?_, h.2⟩⟩
  unfold rounded
  split_ifs with hplace
  · rfl
  · by_cases hx : x = 0
    · rw [hx, roundSignificant, if_pos rfl]
      simpa using roundAt_unique (n := 0) hf.base_gt
        (by simpa using zpow_base_pos hf.base_gt f.lowestPlace)
    -- the number is less than half a unit of the lowest place away
    obtain ⟨⟨m, e, -, he, heq⟩, -⟩ := h
    obtain ⟨k, rfl⟩ := Int.le.dest he
    have hb : (f.base : ℚ) ≠ 0 := by exact_mod_cast (zero_lt_one.trans hf.base_gt).ne'
    have hsplit : roundSignificant f.base f.digits x =
        (m * f.base ^ k : ℤ) * (f.base : ℚ) ^ f.lowestPlace := by
      rw [heq, zpow_add₀ hb, zpow_natCast]
      push_cast
      ring
    have hnear := @abs_sub_roundSignificant_le f.base f.digits x hf.base_gt hx
    have hlt : (f.base : ℚ) ^ lastPlace f.base f.digits x < (f.base : ℚ) ^ f.lowestPlace :=
      zpow_lt_zpow_right₀ (by exact_mod_cast hf.base_gt) (not_le.mp hplace)
    rw [hsplit] at hnear ⊢
    exact roundAt_unique hf.base_gt (hnear.trans_lt (by linarith))

/-- The numbers of which a format keeps all the digits it has: those that are not rounded up to the
first number it lacks, and of the ones below its least normal number those close to a number it
has. -/
structure Fits (f : FloatFormat) (x : ℚ) : Prop where
  below : |x| < (f.base : ℚ) ^ (f.maxExponent + 1) -
    (f.base : ℚ) ^ (f.maxExponent + 1 - f.digits) / 2
  resolved : (f.base : ℚ) ^ f.minExponent ≤ |x| ∨ ∃ n : ℤ,
    |x - n * (f.base : ℚ) ^ f.lowestPlace| ≤ (f.base : ℚ) ^ lastPlace f.base f.digits x / 2

/-- Half a unit below the first number a format lacks there is a tie. -/
lemma abs_roundSignificant_lt_iff (hf : f.Proper) (heven : Even f.base) :
    |roundSignificant f.base f.digits x| < (f.base : ℚ) ^ (f.maxExponent + 1) ↔
      |x| < (f.base : ℚ) ^ (f.maxExponent + 1) -
        (f.base : ℚ) ^ (f.maxExponent + 1 - f.digits) / 2 := by
  have hb : (f.base : ℚ) ≠ 0 := by exact_mod_cast (zero_lt_one.trans hf.base_gt).ne'
  have hpos := zpow_base_pos hf.base_gt (f.maxExponent + 1 - f.digits)
  set unit := (f.base : ℚ) ^ (f.maxExponent + 1 - f.digits) with hunit
  have htop : (f.base : ℚ) ^ (f.maxExponent + 1) = (f.base ^ f.digits : ℕ) * unit := by
    rw [hunit, Nat.cast_pow, ← zpow_natCast, ← zpow_add₀ hb]
    congr 1
    omega
  have hdigit : (f.base : ℚ) ^ f.maxExponent = (f.base ^ (f.digits - 1) : ℕ) * unit := by
    have := hf.digits_pos
    rw [hunit, Nat.cast_pow, ← zpow_natCast, ← zpow_add₀ hb]
    congr 1
    omega
  have hless : ((f.base ^ (f.digits - 1) : ℕ) : ℚ) + 1 ≤ (f.base ^ f.digits : ℕ) := by
    exact_mod_cast Nat.pow_lt_pow_right hf.base_gt (Nat.sub_lt hf.digits_pos Nat.one_pos)
  -- numbers of the greatest magnitude are rounded to a multiple of one unit
  have hlast : ∀ z : ℚ, (f.base : ℚ) ^ f.maxExponent ≤ z → z < (f.base : ℚ) ^ (f.maxExponent + 1) →
      roundSignificant f.base f.digits z = roundHalfEven (z / unit) * unit := by
    intro z hlow hhigh
    have hz := (zpow_base_pos hf.base_gt _).trans_le hlow
    have hlog : Int.log f.base z = f.maxExponent := by
      have := (Int.zpow_le_iff_le_log hf.base_gt hz).mp hlow
      have := (Int.lt_zpow_iff_log_lt hf.base_gt hz).mp hhigh
      omega
    rw [roundSignificant_of_ne hz.ne', lastPlace, abs_of_pos hz, hlog]
  rw [abs_roundSignificant, htop]
  constructor
  · intro h
    by_contra hge
    have htie : roundSignificant f.base f.digits ((f.base ^ f.digits : ℕ) * unit - unit / 2) =
        (f.base ^ f.digits : ℕ) * unit := by
      rw [hlast _ (by rw [hdigit]; nlinarith) (by rw [htop]; linarith),
        @roundHalfEven_unique _ (f.base ^ f.digits : ℕ)]
      · rw [Int.cast_natCast]
      · rw [Int.cast_natCast, sub_div, mul_div_cancel_right₀ _ hpos.ne',
          div_div_cancel_left' hpos.ne']
        norm_num
      · intro
        exact_mod_cast (Nat.even_pow.mpr ⟨heven, hf.digits_pos.ne'⟩)
    exact absurd (htie ▸ roundSignificant_mono hf.base_gt hf.digits_pos (not_lt.mp hge))
      (not_le.mpr h)
  · intro h
    rcases le_or_gt |x| (((f.base ^ f.digits : ℕ) - 1 : ℤ) * unit) with hle | hgt
    · have hnumber : RepresentableAt f.base f.digits (f.maxExponent + 1 - f.digits)
          (((f.base ^ f.digits : ℕ) - 1 : ℤ) * unit) := by
        refine ⟨_, _, ?_, le_rfl, rfl⟩
        have := Nat.one_lt_pow hf.digits_pos.ne' hf.base_gt
        rw [abs_of_nonneg (by omega)]
        push_cast
        omega
      have hround := roundSignificant_mono hf.base_gt hf.digits_pos hle
      rw [roundSignificant_of_representable hf.base_gt hnumber] at hround
      refine hround.trans_lt (mul_lt_mul_of_pos_right ?_ hpos)
      push_cast
      linarith
    · push_cast at hgt
      rw [hlast _ (by rw [hdigit]; push_cast at *; nlinarith) (by rw [htop]; linarith),
        @roundHalfEven_unique _ ((f.base ^ f.digits : ℕ) - 1)]
      · refine mul_lt_mul_of_pos_right ?_ hpos
        push_cast
        linarith
      all_goals
        have hclose : |(|x| / unit) - (((f.base ^ f.digits : ℕ) - 1 : ℤ) : ℚ)| < 1 / 2 := by
          rw [div_sub' hpos.ne', abs_div, abs_of_pos hpos, div_lt_iff₀ hpos, abs_lt]
          push_cast at *
          constructor <;> linarith
      · exact hclose.le
      · exact fun htie => absurd htie hclose.ne

/-- Whether rounding to the digits of a format gives one of its numbers, said of the number. -/
theorem isNumber_significant_iff (hf : f.Proper) (heven : Even f.base) :
    f.IsNumber (roundSignificant f.base f.digits x) ↔ f.Fits x := by
  have hb : (f.base : ℚ) ≠ 0 := by exact_mod_cast (zero_lt_one.trans hf.base_gt).ne'
  by_cases hx : x = 0
  · rw [hx, roundSignificant, if_pos rfl]
    refine iff_of_true ⟨representableAt_zero hf.base_gt _, ?_⟩ ⟨?_, .inr ⟨0, ?_⟩⟩
    · rw [abs_zero]
      exact zpow_base_pos hf.base_gt _
    · rw [← abs_roundSignificant_lt_iff hf heven, roundSignificant, if_pos rfl, abs_zero]
      exact zpow_base_pos hf.base_gt _
    · simpa using (half_pos (zpow_base_pos hf.base_gt (lastPlace f.base f.digits 0))).le
  have hnormal : (f.base : ℚ) ^ f.minExponent ≤ |x| ↔
      f.lowestPlace ≤ lastPlace f.base f.digits x := by
    rw [Int.zpow_le_iff_le_log hf.base_gt (abs_pos.mpr hx), lowestPlace, lastPlace]
    omega
  constructor
  · rintro ⟨hrepresentable, hlt⟩
    refine ⟨(abs_roundSignificant_lt_iff hf heven).mp hlt, or_iff_not_imp_left.mpr fun _ => ?_⟩
    obtain ⟨m, e, -, he, heq⟩ := hrepresentable
    obtain ⟨k, rfl⟩ := Int.le.dest he
    refine ⟨m * f.base ^ k, ?_⟩
    have hnear := @abs_sub_roundSignificant_le f.base f.digits x hf.base_gt hx
    rw [heq, zpow_add₀ hb, zpow_natCast, mul_comm ((f.base : ℚ) ^ _), ← mul_assoc] at hnear
    exact_mod_cast hnear
  · rintro ⟨hbelow, hresolved⟩
    refine ⟨?_, (abs_roundSignificant_lt_iff hf heven).mpr hbelow⟩
    by_cases hplace : f.lowestPlace ≤ lastPlace f.base f.digits x
    · obtain ⟨m, e, hm, he, heq⟩ :=
        @representable_roundSignificant f.base f.digits hf.base_gt hf.digits_pos x
      exact ⟨m, e, hm, hplace.trans he, heq⟩
    obtain ⟨n, hn⟩ := hresolved.resolve_left fun h => hplace (hnormal.mp h)
    have hpos := zpow_base_pos hf.base_gt (lastPlace f.base f.digits x)
    obtain ⟨k, hk⟩ := Int.le.dest (not_le.mp hplace)
    have hsplit : (f.base : ℚ) ^ f.lowestPlace =
        (f.base : ℚ) ^ (k + 1) * (f.base : ℚ) ^ lastPlace f.base f.digits x := by
      rw [← zpow_natCast, ← zpow_add₀ hb, ← hk]
      congr 1
      push_cast
      omega
    -- the multiple of the lowest place is an even one of the last, so a tie goes to it
    have hround : roundSignificant f.base f.digits x = n * (f.base : ℚ) ^ f.lowestPlace := by
      have hclose : |x / (f.base : ℚ) ^ lastPlace f.base f.digits x -
          (n * f.base ^ (k + 1) : ℤ)| ≤ 1 / 2 := by
        rw [div_sub' hpos.ne', abs_div, abs_of_pos hpos, div_le_iff₀ hpos]
        rw [hsplit] at hn
        calc _ = |x - n * ((f.base : ℚ) ^ (k + 1) *
              (f.base : ℚ) ^ lastPlace f.base f.digits x)| := by push_cast; ring_nf
          _ ≤ _ := by linarith
      rw [roundSignificant_of_ne hx, roundHalfEven_unique hclose fun _ => ?_]
      · push_cast
        rw [hsplit, mul_assoc]
      · exact (((Int.even_coe_nat _).mpr heven).pow_of_ne_zero (Nat.succ_ne_zero k)).mul_left n
    rw [hround]
    refine ⟨n, f.lowestPlace, ?_, le_rfl, rfl⟩
    have hmono := roundSignificant_mono hf.base_gt hf.digits_pos
      (not_le.mp (hnormal.not.mpr hplace)).le
    rw [roundSignificant_of_representable hf.base_gt (representableAt_least hf),
      ← abs_roundSignificant, hround,
      abs_mul, abs_of_pos (zpow_base_pos hf.base_gt _)] at hmono
    have hsame : (f.base : ℚ) ^ f.minExponent =
        (f.base ^ (f.digits - 1) : ℕ) * (f.base : ℚ) ^ f.lowestPlace := by
      have := hf.digits_pos
      rw [Nat.cast_pow, ← zpow_natCast, ← zpow_add₀ hb]
      congr 1
      unfold lowestPlace
      omega
    rw [hsame] at hmono
    have hle : |n| ≤ (f.base ^ (f.digits - 1) : ℕ) := by
      exact_mod_cast le_of_mul_le_mul_right hmono (zpow_base_pos hf.base_gt _)
    refine hle.trans_lt ?_
    exact_mod_cast Nat.pow_lt_pow_right hf.base_gt (Nat.sub_lt hf.digits_pos Nat.one_pos)

theorem round_eq_significant_iff_fits (hf : f.Proper) (heven : Even f.base) :
    f.round x = some (roundSignificant f.base f.digits x) ↔ f.Fits x :=
  (round_eq_significant_iff hf x).trans (isNumber_significant_iff hf heven)

lemma fits_of_one_le (hf : f.Proper) (hone : 1 ≤ |x|)
    (hlt : |x| < (f.base : ℚ) ^ f.maxExponent) : f.Fits x := by
  have hb : (f.base : ℚ) ≠ 0 := by exact_mod_cast (zero_lt_one.trans hf.base_gt).ne'
  have hbase : (1 : ℚ) ≤ f.base := by exact_mod_cast hf.base_gt.le
  have hdigits := hf.digits_pos
  have hunit : (f.base : ℚ) ^ (f.maxExponent + 1 - f.digits) ≤ (f.base : ℚ) ^ f.maxExponent :=
    zpow_le_zpow_right₀ hbase (by omega)
  have htwo : 2 * (f.base : ℚ) ^ f.maxExponent ≤ (f.base : ℚ) ^ (f.maxExponent + 1) := by
    rw [zpow_add_one₀ hb, mul_comm]
    exact mul_le_mul_of_nonneg_left (by exact_mod_cast hf.base_gt) (zpow_base_pos hf.base_gt _).le
  have hpos := zpow_base_pos hf.base_gt f.maxExponent
  refine ⟨by linarith, .inl (le_trans ?_ hone)⟩
  exact zpow_le_one_of_nonpos₀ hbase hf.min_nonpos

lemma rounded_neg (f : FloatFormat) (x : ℚ) : f.rounded (-x) = -f.rounded x := by
  have hplace : lastPlace f.base f.digits (-x) = lastPlace f.base f.digits x := by
    rw [lastPlace, abs_neg, lastPlace]
  unfold rounded
  rw [hplace]
  split_ifs
  · exact roundSignificant_neg x
  · rw [roundAt, neg_div, roundHalfEven_neg, Int.cast_neg, neg_mul, roundAt]

/-- The least normal number is between the numbers below it and the normal ones. -/
lemma rounded_le_of_normal (hf : f.Proper) (h : x ≤ y)
    (hx : lastPlace f.base f.digits x < f.lowestPlace)
    (hy : f.lowestPlace ≤ lastPlace f.base f.digits y) : f.rounded x ≤ f.rounded y := by
  have hdigits := hf.digits_pos
  have hone : (1 : ℚ) ≤ f.base := by exact_mod_cast hf.base_gt.le
  unfold rounded
  rw [if_neg (not_le.mpr hx), if_pos hy]
  rcases lt_or_ge 0 y with hpos | hneg
  · have hleast : RepresentableAt f.base f.digits f.lowestPlace ((f.base : ℚ) ^ f.minExponent) := by
      refine ⟨1, f.minExponent, ?_, by unfold lowestPlace; omega, by simp⟩
      rw [abs_one]
      exact_mod_cast Nat.one_lt_pow hdigits.ne' hf.base_gt
    have hleft : x ≤ (f.base : ℚ) ^ f.minExponent := by
      refine (le_abs_self x).trans ((Int.lt_zpow_succ_log_self hf.base_gt |x|).le.trans ?_)
      refine zpow_le_zpow_right₀ hone ?_
      unfold lastPlace lowestPlace at hx
      omega
    have hright : (f.base : ℚ) ^ f.minExponent ≤ y := by
      refine le_trans (zpow_le_zpow_right₀ hone ?_) (Int.zpow_log_le_self hf.base_gt hpos)
      unfold lastPlace lowestPlace at hy
      rw [abs_of_pos hpos] at hy
      omega
    have hmid := roundSignificant_mono hf.base_gt hdigits hright
    rw [roundSignificant_of_representable hf.base_gt (representableAt_least hf)] at hmid
    refine le_trans ?_ hmid
    have hsame : roundAt f.base f.lowestPlace ((f.base : ℚ) ^ f.minExponent) =
        (f.base : ℚ) ^ f.minExponent := by
      obtain ⟨k, hk⟩ := Int.le.dest (show f.lowestPlace ≤ f.minExponent by
        unfold lowestPlace; omega)
      have hb : (f.base : ℚ) ≠ 0 := by positivity
      have hsplit : (f.base : ℚ) ^ f.minExponent =
          (f.base ^ k : ℤ) * (f.base : ℚ) ^ f.lowestPlace := by
        rw [← hk, zpow_add₀ hb, zpow_natCast]
        push_cast
        ring
      rw [hsplit]
      exact roundAt_unique hf.base_gt (by simpa using zpow_base_pos hf.base_gt _)
    exact hsame ▸ roundAt_mono hf.base_gt f.lowestPlace hleft
  · rcases hneg.eq_or_lt with rfl | hneg
    · have hzero : roundAt f.base f.lowestPlace 0 = 0 := by
        rw [roundAt, zero_div, ← Int.cast_zero, roundHalfEven_intCast, Int.cast_zero, zero_mul]
      rw [roundSignificant, if_pos rfl, ← hzero]
      exact roundAt_mono hf.base_gt f.lowestPlace h
    · have hlog : Int.log f.base |y| ≤ Int.log f.base |x| :=
        Int.log_mono_right (abs_pos.mpr hneg.ne) (abs_le_abs_of_nonpos hneg.le h)
      unfold lastPlace at hx hy
      omega

lemma rounded_mono (hf : f.Proper) (h : x ≤ y) : f.rounded x ≤ f.rounded y := by
  rcases lt_or_ge (lastPlace f.base f.digits x) f.lowestPlace with hx | hx
  · rcases lt_or_ge (lastPlace f.base f.digits y) f.lowestPlace with hy | hy
    · rw [rounded, if_neg (not_le.mpr hx), rounded, if_neg (not_le.mpr hy)]
      exact roundAt_mono hf.base_gt _ h
    · exact rounded_le_of_normal hf h hx hy
  · rcases lt_or_ge (lastPlace f.base f.digits y) f.lowestPlace with hy | hy
    · have hneg : ∀ z : ℚ, lastPlace f.base f.digits (-z) = lastPlace f.base f.digits z :=
        fun z => by rw [lastPlace, abs_neg, lastPlace]
      have := rounded_le_of_normal hf (neg_le_neg h) ((hneg y).trans_lt hy) (hx.trans (hneg x).ge)
      rwa [rounded_neg, rounded_neg, neg_le_neg_iff] at this
    · rw [rounded, if_pos hx, rounded, if_pos hy]
      exact roundSignificant_mono hf.base_gt hf.digits_pos h

lemma IsNumber.le_round (hf : f.Proper) (hx : f.IsNumber x) (h : x ≤ y) {y' : ℚ}
    (hy : f.round y = some y') : x ≤ y' := by
  obtain ⟨rfl, -⟩ := (round_eq_some_iff hf).mp hy
  have := rounded_mono hf h
  rwa [rounded_eq_of_representable hf hx.1] at this

lemma isNumber_zero (hf : f.Proper) : f.IsNumber 0 :=
  ⟨representableAt_zero hf.base_gt _, by rw [abs_zero]; exact zpow_base_pos hf.base_gt _⟩

/-- A format that has room for a number has it for the smaller ones. -/
lemma exists_round (hf : f.Proper) (hx : 0 ≤ x) (h : x ≤ y) {y' : ℚ} (hy : f.round y = some y') :
    ∃ x', f.round x = some x' ∧ 0 ≤ x' ∧ x' ≤ y' := by
  obtain ⟨rfl, hlt⟩ := (round_eq_some_iff hf).mp hy
  have hzero := rounded_mono hf hx
  rw [rounded_eq_of_representable hf (isNumber_zero hf).1] at hzero
  have hle := rounded_mono hf h
  refine ⟨f.rounded x, (round_eq_some_iff hf).mpr ⟨rfl, ?_⟩, hzero, hle⟩
  rw [abs_of_nonneg hzero]
  exact hle.trans_lt ((le_abs_self _).trans_lt hlt)

/-- The numbers that a format is too small for. -/
lemma round_eq_none (hf : f.Proper) (h : (f.base : ℚ) ^ (f.maxExponent + 1) ≤ |x|) :
    f.round x = none := by
  have hone : |(1 : ℤ)| < (f.base : ℤ) ^ f.digits := by
    rw [abs_one]
    exact_mod_cast Nat.one_lt_pow hf.digits_pos.ne' hf.base_gt
  have hplace : f.lowestPlace ≤ f.maxExponent + 1 := by
    have := hf.min_nonpos
    have := hf.max_nonneg
    unfold lowestPlace
    omega
  have hmono := rounded_mono hf h
  rw [rounded_eq_of_representable hf ⟨1, _, hone, hplace, by simp⟩] at hmono
  have habs : |f.rounded x| = f.rounded |x| := by
    rcases le_total 0 x with hx | hx
    · rw [abs_of_nonneg hx] at hmono ⊢
      exact abs_of_nonneg ((zpow_base_pos hf.base_gt _).le.trans hmono)
    · rw [abs_of_nonpos hx, rounded_neg] at hmono ⊢
      exact abs_of_nonpos (neg_nonneg.mp ((zpow_base_pos hf.base_gt _).le.trans hmono))
  rw [Option.eq_none_iff_forall_ne_some]
  intro y hround
  obtain ⟨rfl, hlt⟩ := (round_eq_some_iff hf).mp hround
  exact absurd (hmono.trans habs.ge) (not_le.mpr hlt)

end FloatFormat

end EdaGym
