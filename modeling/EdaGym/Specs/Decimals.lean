import Mathlib.Data.Nat.Digits.Lemmas
import Mathlib.Data.Nat.Factorization.Basic
import Mathlib.Data.List.DropRight
import Mathlib.Algebra.Order.Field.Rat
import Mathlib.Tactic.FieldSimp
import Mathlib.Tactic.Positivity
import Mathlib.Tactic.Ring

/-!
# Canonical decimals

A finite decimal is a sign, a coefficient and an exponent, and a number has many of them. Persisted
values spell a number in fixed-point notation without redundant zeros, so that equal numbers are
spelled alike.
-/

namespace EdaGym

/-- A finite decimal of Python. -/
structure Decimal where
  sign : Bool
  coefficient : Nat
  exponent : ℤ

/-- The number formed by some digits, the first of them the most significant. -/
def ofDecimalDigits (digits : List Nat) : Nat := Nat.ofDigits 10 digits.reverse

/-- The decimal built from a sign, digits and an exponent. -/
def Decimal.ofTuple (sign : Bool) (digits : List Nat) (exponent : ℤ) : Decimal :=
  ⟨sign, ofDecimalDigits digits, exponent⟩

def Decimal.digits (value : Decimal) : List Nat :=
  if value.coefficient = 0 then [0] else (Nat.digits 10 value.coefficient).reverse

def Decimal.value (d : Decimal) : ℚ :=
  (if d.sign then -1 else 1) * d.coefficient * (10 : ℚ) ^ d.exponent

/-- Zeros at the end of the digits move into the exponent. -/
def popZeros (digits : List Nat) (exponent : ℤ) : List Nat × ℤ :=
  let significant := digits.rdropWhile (· = 0)
  (significant, exponent + (digits.length - significant.length : ℕ))

def normalizeDecimal (value : Decimal) : Decimal :=
  match popZeros value.digits value.exponent with
  | ([], _) => ⟨false, 0, 0⟩
  | (normalizedDigits, exponent) => .ofTuple value.sign normalizedDigits exponent

def rendered (coefficient : List Char) (exponent : ℤ) : List Char :=
  if 0 ≤ exponent then coefficient ++ List.replicate exponent.toNat '0'
  else
    let point := (coefficient.length : ℤ) + exponent
    if 0 < point then coefficient.take point.toNat ++ '.' :: coefficient.drop point.toNat
    else '0' :: '.' :: (List.replicate (-point).toNat '0' ++ coefficient)

def canonicalDecimalChars (value : Decimal) : List Char :=
  match popZeros value.digits value.exponent with
  | ([], _) => ['0']
  | (significant, exponent) =>
    let coefficient := significant.map Nat.digitChar
    if value.sign then '-' :: rendered coefficient exponent else rendered coefficient exponent

def canonicalDecimalString (value : Decimal) : String := .ofList (canonicalDecimalChars value)

/-! ### Reading a string -/

def splitSign : List Char → Bool × List Char
  | '-' :: text => (true, text)
  | '+' :: text => (false, text)
  | text => (false, text)

/-- The part before the point and the part after it. -/
def splitPoint (text : List Char) : Option (List Char × List Char) :=
  match text.dropWhile Char.isDigit with
  | [] => some (text.takeWhile Char.isDigit, [])
  | '.' :: fraction =>
    if fraction.all Char.isDigit then some (text.takeWhile Char.isDigit, fraction) else none
  | _ => none

/-- The pattern `[+-]?(\d+(\.\d*)?|\.\d+)` of decimal strings, its digits being the ASCII ones. -/
def MatchesDecimalPattern (text : String) : Prop :=
  ∃ sign ∈ [[], ['+'], ['-']], ∃ whole fraction : List Char,
    (∀ c ∈ whole ++ fraction, c.isDigit = true) ∧
      (whole ≠ [] ∧
          (text.toList = sign ++ whole ∨ text.toList = sign ++ whole ++ '.' :: fraction) ∨
        fraction ≠ [] ∧ text.toList = sign ++ '.' :: fraction)

def digitValue (c : Char) : Nat := c.toNat - 48

/-- `Decimal(text)` for a text in fixed-point notation. -/
def decimalFromString (text : String) : Option Decimal := do
  let (sign, body) := splitSign text.toList
  let (whole, fraction) ← splitPoint body
  guard (whole ≠ [] ∨ fraction ≠ [])
  return .ofTuple sign ((whole ++ fraction).map digitValue) (-fraction.length)

example : (decimalFromString "-012.50").map canonicalDecimalString = some "-12.5" := by
  decide +kernel

/-! ### Significant digits -/

variable {d e : Decimal}

lemma popZeros_of_eq_zero (h : d.coefficient = 0) :
    popZeros d.digits d.exponent = ([], d.exponent + 1) := by
  simp [popZeros, Decimal.digits, h, List.rdropWhile]

/-- A coefficient without its zeros at the end, and what they were worth. -/
lemma exists_popZeros (h : d.coefficient ≠ 0) :
    ∃ m k : Nat, d.coefficient = 10 ^ k * m ∧ ¬ 10 ∣ m ∧
      popZeros d.digits d.exponent = ((Nat.digits 10 m).reverse, d.exponent + k) := by
  obtain ⟨k, m, hm, hcoefficient⟩ := Nat.exists_eq_pow_mul_and_not_dvd h 10 (by simp)
  have hpos : 0 < m := Nat.pos_of_ne_zero fun hzero => hm (hzero ▸ dvd_zero 10)
  have hdigits : Nat.digits 10 d.coefficient = List.replicate k 0 ++ Nat.digits 10 m := by
    rw [hcoefficient, Nat.digits_base_pow_mul (by simp) hpos]
  have hhead : (Nat.digits 10 m).dropWhile (· = 0) = Nat.digits 10 m := by
    rw [Nat.digits_def' (by simp) hpos, List.dropWhile_cons_of_neg]
    simpa using fun hzero => hm (Nat.dvd_of_mod_eq_zero hzero)
  have hdrop : (Nat.digits 10 d.coefficient).dropWhile (· = 0) = Nat.digits 10 m := by
    rw [hdigits, List.dropWhile_append_of_pos (by simp +contextual), hhead]
  refine ⟨m, k, hcoefficient, hm, ?_⟩
  simp [popZeros, Decimal.digits, h, List.rdropWhile, hdrop]
  simp [hdigits]

@[simp] lemma Decimal.value_eq_zero : d.value = 0 ↔ d.coefficient = 0 := by
  have hpow : (10 : ℚ) ^ d.exponent ≠ 0 := zpow_ne_zero _ (by simp)
  cases hsign : d.sign <;> simp [Decimal.value, hsign, hpow]

lemma Decimal.value_neg_iff (h : d.coefficient ≠ 0) : d.value < 0 ↔ d.sign = true := by
  have hpow : (0 : ℚ) < (10 : ℚ) ^ d.exponent := zpow_pos (by simp) _
  have hpos : (0 : ℚ) < d.coefficient * (10 : ℚ) ^ d.exponent :=
    mul_pos (by exact_mod_cast Nat.pos_of_ne_zero h) hpow
  cases hsign : d.sign
  · simpa [Decimal.value, hsign] using hpos.le
  · simpa [Decimal.value, hsign] using hpos

lemma Decimal.abs_value : |d.value| = d.coefficient * (10 : ℚ) ^ d.exponent := by
  have hpow : (0 : ℚ) < (10 : ℚ) ^ d.exponent := zpow_pos (by simp) _
  cases hsign : d.sign <;> simp [Decimal.value, hsign, abs_mul, abs_of_pos hpow]

/-- A number that ends in no zero is written in one way. -/
lemma eq_of_mul_zpow_eq {m n : Nat} {a b : ℤ} (hm : ¬ 10 ∣ m) (hab : a ≤ b)
    (h : (m : ℚ) * 10 ^ a = n * 10 ^ b) : m = n ∧ a = b := by
  obtain ⟨j, rfl⟩ := Int.le.dest hab
  have hpow : (10 : ℚ) ^ a ≠ 0 := zpow_ne_zero _ (by simp)
  have hnat : m = n * 10 ^ j := by
    rw [zpow_add₀ (by simp), mul_left_comm, mul_comm (m : ℚ)] at h
    exact_mod_cast mul_left_cancel₀ hpow h
  cases j with
  | zero => simpa using hnat
  | succ j => exact absurd (hnat ▸ Dvd.intro_left (n * 10 ^ j) (by ring)) hm

lemma coefficient_eq_zero_iff (h : d.value = e.value) :
    d.coefficient = 0 ↔ e.coefficient = 0 := by
  rw [← Decimal.value_eq_zero, h, Decimal.value_eq_zero]

/-- What is left of equal numbers is the same. -/
lemma popZeros_eq_of_value_eq (h : d.value = e.value) (hd : d.coefficient ≠ 0) :
    d.sign = e.sign ∧ popZeros d.digits d.exponent = popZeros e.digits e.exponent := by
  have he : e.coefficient ≠ 0 := by rwa [Ne, ← coefficient_eq_zero_iff h]
  obtain ⟨m, j, hm, hmdvd, hdpop⟩ := exists_popZeros hd
  obtain ⟨n, k, hn, hndvd, hepop⟩ := exists_popZeros he
  have hsign : d.sign = e.sign := by
    rw [Bool.eq_iff_iff, ← Decimal.value_neg_iff hd, ← Decimal.value_neg_iff he, h]
  have habs : (m : ℚ) * 10 ^ (d.exponent + j) = n * 10 ^ (e.exponent + k) := by
    have := congrArg abs h
    rw [Decimal.abs_value, Decimal.abs_value, hm, hn] at this
    rw [zpow_add₀ (by simp), zpow_add₀ (by simp)]
    push_cast at this
    simp only [zpow_natCast]
    linarith
  have heq : m = n ∧ d.exponent + j = e.exponent + k := by
    rcases le_total (d.exponent + j) (e.exponent + k) with hle | hle
    · exact eq_of_mul_zpow_eq hmdvd hle habs
    · obtain ⟨hmn, hexp⟩ := eq_of_mul_zpow_eq hndvd hle habs.symm
      exact ⟨hmn.symm, hexp.symm⟩
  refine ⟨hsign, ?_⟩
  rw [hdpop, hepop, heq.1, heq.2]

lemma normalizeDecimal_eq_of_value_eq (h : d.value = e.value) :
    normalizeDecimal d = normalizeDecimal e := by
  by_cases hd : d.coefficient = 0
  · simp [normalizeDecimal, popZeros_of_eq_zero, hd, (coefficient_eq_zero_iff h).mp hd]
  · obtain ⟨hsign, hpop⟩ := popZeros_eq_of_value_eq h hd
    rw [normalizeDecimal, normalizeDecimal, hpop, hsign]

lemma canonicalDecimalChars_eq_of_value_eq (h : d.value = e.value) :
    canonicalDecimalChars d = canonicalDecimalChars e := by
  by_cases hd : d.coefficient = 0
  · simp [canonicalDecimalChars, popZeros_of_eq_zero, hd, (coefficient_eq_zero_iff h).mp hd]
  · obtain ⟨hsign, hpop⟩ := popZeros_eq_of_value_eq h hd
    rw [canonicalDecimalChars, canonicalDecimalChars, hpop, hsign]

/-! ### What is rendered is read back -/

lemma ofDecimalDigits_zeros_append (n : Nat) (digits : List Nat) :
    ofDecimalDigits (List.replicate n 0 ++ digits) = ofDecimalDigits digits := by
  simp [ofDecimalDigits, Nat.ofDigits_append, Nat.ofDigits_replicate_zero]

lemma ofDecimalDigits_append_zeros (n : Nat) (digits : List Nat) :
    ofDecimalDigits (digits ++ List.replicate n 0) = 10 ^ n * ofDecimalDigits digits := by
  simp [ofDecimalDigits, Nat.ofDigits_append, Nat.ofDigits_replicate_zero]

lemma digitValue_digitChar {n : Nat} (h : n < 10) : digitValue (Nat.digitChar n) = n := by
  interval_cases n <;> rfl

/-- The characters of a coefficient. -/
def digitChars (m : Nat) : List Char := (Nat.digits 10 m).reverse.map Nat.digitChar

lemma isDigit_of_mem_digitChars {m : Nat} : ∀ c ∈ digitChars m, c.isDigit = true := by
  intro c hc
  simp only [digitChars, List.mem_map, List.mem_reverse] at hc
  obtain ⟨n, hn, rfl⟩ := hc
  have hlt := Nat.digits_lt_base (by simp) hn
  interval_cases n <;> rfl

lemma ofDecimalDigits_digitChars (m : Nat) :
    ofDecimalDigits ((digitChars m).map digitValue) = m := by
  have hmap : (digitChars m).map digitValue = (Nat.digits 10 m).reverse := by
    rw [digitChars, List.map_map]
    conv_rhs => rw [← List.map_id (Nat.digits 10 m).reverse]
    exact List.map_congr_left fun n hn =>
      digitValue_digitChar (Nat.digits_lt_base (by simp) (List.mem_reverse.mp hn))
  rw [hmap, ofDecimalDigits, List.reverse_reverse, Nat.ofDigits_digits]

lemma splitPoint_whole {whole : List Char} (h : ∀ c ∈ whole, c.isDigit = true) :
    splitPoint whole = some (whole, []) := by
  rw [splitPoint, List.dropWhile_eq_nil_iff.mpr h]
  simp only
  rw [List.takeWhile_eq_self_iff.mpr h]

lemma splitPoint_point {whole fraction : List Char} (h : ∀ c ∈ whole, c.isDigit = true)
    (hfraction : ∀ c ∈ fraction, c.isDigit = true) :
    splitPoint (whole ++ '.' :: fraction) = some (whole, fraction) := by
  have hdrop : (whole ++ '.' :: fraction).dropWhile Char.isDigit = '.' :: fraction := by
    rw [List.dropWhile_append_of_pos h, List.dropWhile_cons_of_neg (by simp)]
  have htake : (whole ++ '.' :: fraction).takeWhile Char.isDigit = whole := by
    rw [List.takeWhile_append_of_pos h, List.takeWhile_cons_of_neg (by simp), List.append_nil]
  simpa [splitPoint, hdrop, htake] using hfraction

/-- Where the point of a text stands and what number is read there. -/
structure ReadsDecimal (text : List Char) (m : Nat) (exponent : ℤ) : Prop where
  head : ∃ c ∈ text.head?, c.isDigit = true
  split : ∃ whole fraction, splitPoint text = some (whole, fraction) ∧ whole ≠ [] ∧
    (∀ c ∈ whole ++ fraction, c.isDigit = true) ∧ (text = whole ∨ text = whole ++ '.' :: fraction) ∧
    (ofDecimalDigits ((whole ++ fraction).map digitValue) : ℚ) * 10 ^ (-(fraction.length : ℤ)) =
      m * 10 ^ exponent

lemma readsDecimal_whole {whole : List Char} {m : Nat} {exponent : ℤ}
    (h : ∀ c ∈ whole, c.isDigit = true) (hne : whole ≠ [])
    (hvalue : (ofDecimalDigits (whole.map digitValue) : ℚ) = m * 10 ^ exponent) :
    ReadsDecimal whole m exponent where
  head := ⟨whole.head hne, List.head?_eq_some_head hne, h _ (List.head_mem hne)⟩
  split := ⟨whole, [], splitPoint_whole h, hne, by simpa using h, .inl rfl, by simpa using hvalue⟩

lemma readsDecimal_point {whole fraction : List Char} {m : Nat} {exponent : ℤ}
    (h : ∀ c ∈ whole ++ fraction, c.isDigit = true) (hne : whole ≠ [])
    (hvalue : ofDecimalDigits ((whole ++ fraction).map digitValue) = m)
    (hlength : exponent = -fraction.length) :
    ReadsDecimal (whole ++ '.' :: fraction) m exponent where
  head := by
    refine ⟨whole.head hne, ?_, h _ (List.mem_append_left _ (List.head_mem hne))⟩
    rw [List.head?_append_of_ne_nil _ hne]
    exact List.head?_eq_some_head hne
  split := ⟨whole, fraction, splitPoint_point (fun c hc => h c (List.mem_append_left _ hc))
    (fun c hc => h c (List.mem_append_right _ hc)), hne, h, .inr rfl, by rw [hvalue, hlength]⟩

/-- The three places of the point: behind the digits, between them, before them. -/
lemma readsDecimal_rendered {m : Nat} (exponent : ℤ) (hm : m ≠ 0) :
    ReadsDecimal (rendered (digitChars m) exponent) m exponent := by
  have hne : digitChars m ≠ [] := by simpa [digitChars, Nat.digits_eq_nil_iff_eq_zero] using hm
  have hpos : 0 < (digitChars m).length := List.length_pos_of_ne_nil hne
  have hdigit := @isDigit_of_mem_digitChars m
  have hvalue := ofDecimalDigits_digitChars m
  unfold rendered
  split_ifs with hexponent
  · refine readsDecimal_whole ?_ (by simp [hne]) ?_
    · intro c hc
      rcases List.mem_append.mp hc with hc | hc
      · exact hdigit c hc
      · exact (List.eq_of_mem_replicate hc) ▸ rfl
    · obtain ⟨n, rfl⟩ := Int.eq_ofNat_of_zero_le hexponent
      rw [List.map_append, List.map_replicate, show digitValue '0' = 0 from rfl,
        ofDecimalDigits_append_zeros, hvalue]
      push_cast
      simp [mul_comm]
  · dsimp only
    split_ifs with hpoint
    · apply readsDecimal_point
      · rwa [List.take_append_drop]
      · rw [Ne, List.take_eq_nil_iff, not_or]
        exact ⟨by omega, hne⟩
      · rwa [List.take_append_drop]
      · rw [List.length_drop]
        omega
    · apply @readsDecimal_point ['0']
      · intro c hc
        rcases List.mem_append.mp hc with hc | hc
        · exact (List.mem_singleton.mp hc) ▸ rfl
        · rcases List.mem_append.mp hc with hc | hc
          · exact (List.eq_of_mem_replicate hc) ▸ rfl
          · exact hdigit c hc
      · simp
      · rw [← List.append_assoc, List.map_append, ← List.replicate_one, ← List.replicate_add,
          List.map_replicate, show digitValue '0' = 0 from rfl, ofDecimalDigits_zeros_append,
          hvalue]
      · rw [List.length_append, List.length_replicate]
        omega

lemma splitSign_of_isDigit {text : List Char} (h : ∃ c ∈ text.head?, c.isDigit = true) :
    splitSign text = (false, text) := by
  obtain ⟨c, hc, hdigit⟩ := h
  cases text with
  | nil => cases hc
  | cons c' text =>
    cases hc
    unfold splitSign
    split
    · rename_i heq
      cases heq
      cases hdigit
    · rename_i heq
      cases heq
      cases hdigit
    · rfl

lemma eq_append_of_splitSign {text body : List Char} {sign : Bool}
    (h : splitSign text = (sign, body)) : ∃ s ∈ [[], ['+'], ['-']], text = s ++ body := by
  unfold splitSign at h
  split at h
  all_goals cases h
  · exact ⟨['-'], by simp, rfl⟩
  · exact ⟨['+'], by simp, rfl⟩
  · exact ⟨[], by simp, rfl⟩

/-- The string of a decimal is of the pattern and read as a decimal of the same value. -/
lemma decimalFromString_canonicalDecimalString (d : Decimal) :
    MatchesDecimalPattern (canonicalDecimalString d) ∧
      ∃ d', decimalFromString (canonicalDecimalString d) = some d' ∧ d'.value = d.value := by
  have hread : ∀ {sign body m exponent}, splitSign (canonicalDecimalChars d) = (sign, body) →
      ReadsDecimal body m exponent → (Decimal.mk sign m exponent).value = d.value →
      MatchesDecimalPattern (canonicalDecimalString d) ∧
        ∃ d', decimalFromString (canonicalDecimalString d) = some d' ∧ d'.value = d.value := by
    intro sign body m exponent hsign hreads hvalue
    obtain ⟨whole, fraction, hsplit, hne, hdigits, hshape, hnumber⟩ := hreads.split
    obtain ⟨s, hs, htext⟩ := eq_append_of_splitSign hsign
    refine ⟨⟨s, hs, whole, fraction, hdigits, .inl ⟨hne, ?_⟩⟩,
      .ofTuple sign ((whole ++ fraction).map digitValue) (-fraction.length), ?_, ?_⟩
    · rw [canonicalDecimalString, String.toList_ofList, htext]
      exact hshape.imp (congrArg (s ++ ·)) (by rintro rfl; simp)
    · simp [decimalFromString, canonicalDecimalString, hsign, hsplit, hne, guard]
    · rw [← hvalue]
      cases sign <;> simpa [Decimal.value, Decimal.ofTuple] using hnumber
  by_cases hd : d.coefficient = 0
  · have hchars : canonicalDecimalChars d = ['0'] := by
      simp [canonicalDecimalChars, popZeros_of_eq_zero hd]
    have hzero : ReadsDecimal ['0'] 0 0 := by
      apply readsDecimal_whole
      · simp
      · simp
      · simp [ofDecimalDigits, digitValue]
    have hsplit : splitSign (canonicalDecimalChars d) = (false, ['0']) := by rw [hchars]; rfl
    refine hread hsplit hzero ?_
    rw [Decimal.value_eq_zero.mpr hd, Decimal.value_eq_zero]
  · obtain ⟨m, k, hm, hmdvd, hpop⟩ := exists_popZeros hd
    have hne : m ≠ 0 := fun hzero => hmdvd (hzero ▸ dvd_zero 10)
    have hreads := readsDecimal_rendered (d.exponent + k) hne
    have hchars : canonicalDecimalChars d =
        if d.sign then '-' :: rendered (digitChars m) (d.exponent + k)
        else rendered (digitChars m) (d.exponent + k) := by
      obtain ⟨n, digits, hcons⟩ := List.exists_cons_of_ne_nil
        (List.reverse_ne_nil_iff.mpr (Nat.digits_ne_nil_iff_ne_zero.mpr hne))
      rw [canonicalDecimalChars, hpop, digitChars, hcons]
    have hsplit : splitSign (canonicalDecimalChars d) =
        (d.sign, rendered (digitChars m) (d.exponent + k)) := by
      rw [hchars]
      cases d.sign
      · exact splitSign_of_isDigit hreads.head
      · rfl
    refine hread hsplit hreads ?_
    simp only [Decimal.value, hm]
    rw [zpow_add₀ (by simp), zpow_natCast]
    push_cast
    ring

lemma value_normalizeDecimal (d : Decimal) : (normalizeDecimal d).value = d.value := by
  by_cases hd : d.coefficient = 0
  · rw [Decimal.value_eq_zero.mpr hd, Decimal.value_eq_zero, normalizeDecimal,
      popZeros_of_eq_zero hd]
  · obtain ⟨m, k, hm, hmdvd, hpop⟩ := exists_popZeros hd
    have hne : m ≠ 0 := fun hzero => hmdvd (hzero ▸ dvd_zero 10)
    obtain ⟨n, digits, hcons⟩ := List.exists_cons_of_ne_nil
      (List.reverse_ne_nil_iff.mpr (Nat.digits_ne_nil_iff_ne_zero.mpr hne))
    have hcoefficient : ofDecimalDigits (n :: digits) = m := by
      rw [← hcons, ofDecimalDigits, List.reverse_reverse, Nat.ofDigits_digits]
    rw [normalizeDecimal, hpop, hcons]
    simp only [Decimal.ofTuple, Decimal.value, hcoefficient, hm]
    rw [zpow_add₀ (by simp), zpow_natCast]
    push_cast
    ring

/-- A number has one canonical string, from which it is read back. -/
theorem canonicalDecimalString_canonical (d e : Decimal) :
    MatchesDecimalPattern (canonicalDecimalString d) ∧
    (∃ d', decimalFromString (canonicalDecimalString d) = some d' ∧
      d'.value = d.value ∧ normalizeDecimal d' = normalizeDecimal d ∧
      canonicalDecimalString d' = canonicalDecimalString d) ∧
    (normalizeDecimal d).value = d.value ∧
    (canonicalDecimalString d = canonicalDecimalString e ↔ d.value = e.value) := by
  obtain ⟨hmatch, d', hd', hvalue⟩ := decimalFromString_canonicalDecimalString d
  refine ⟨hmatch, ⟨d', hd', hvalue, normalizeDecimal_eq_of_value_eq hvalue, ?_⟩,
    value_normalizeDecimal d, ?_, ?_⟩
  · rw [canonicalDecimalString, canonicalDecimalChars_eq_of_value_eq hvalue, canonicalDecimalString]
  · intro heq
    obtain ⟨-, e', he', hevalue⟩ := decimalFromString_canonicalDecimalString e
    rw [heq, he'] at hd'
    cases hd'
    rw [← hvalue, hevalue]
  · intro heq
    rw [canonicalDecimalString, canonicalDecimalChars_eq_of_value_eq heq, canonicalDecimalString]

end EdaGym
