import Mathlib.Data.List.Basic
import Mathlib.Tactic.IntervalCases

/-!
# Numbers in hexadecimal

The digits of a number, filled up with zeros from the left, are read back as that number.
-/

namespace EdaGym

/-- At least eight hexadecimal digits. -/
def hexDigits8 (n : Nat) : List Char :=
  let digits := Nat.toDigits 16 n
  List.replicate (8 - digits.length) '0' ++ digits

def hexValue (c : Char) : Nat := if c.isDigit then c.toNat - 48 else c.toNat - 87

def ofHexDigits (cs : List Char) : Nat := cs.foldl (fun n c => 16 * n + hexValue c) 0

lemma hexValue_digitChar {d : Nat} (h : d < 16) : hexValue d.digitChar = d := by
  interval_cases d <;> rfl

lemma ofHexDigits_toDigits (n : Nat) : ofHexDigits (Nat.toDigits 16 n) = n := by
  induction n using Nat.strongRecOn with
  | _ n ih =>
    by_cases h : n < 16
    · rw [Nat.toDigits_of_lt_base h]
      simp [ofHexDigits, hexValue_digitChar h]
    · rw [Nat.toDigits_of_base_le (by decide) (not_lt.mp h), ofHexDigits, List.foldl_append]
      have hq : ofHexDigits (Nat.toDigits 16 (n / 16)) = n / 16 := ih _ (by omega)
      rw [ofHexDigits] at hq
      simp only [hq, List.foldl_cons, List.foldl_nil, hexValue_digitChar (Nat.mod_lt n (by decide))]
      omega

lemma ofHexDigits_hexDigits8 (n : Nat) : ofHexDigits (hexDigits8 n) = n := by
  have hzeros (k : Nat) : (List.replicate k '0').foldl (fun n c => 16 * n + hexValue c) 0 = 0 := by
    induction k with
    | zero => rfl
    | succ k ih => simpa [List.replicate_succ, hexValue] using ih
  rw [hexDigits8, ofHexDigits, List.foldl_append, hzeros]
  exact ofHexDigits_toDigits n

lemma hexDigits8_injective : Function.Injective hexDigits8 :=
  Function.LeftInverse.injective ofHexDigits_hexDigits8

lemma underscore_notMem_toDigits (n : Nat) : '_' ∉ Nat.toDigits 16 n := by
  have hdigit (d : Nat) (h : d < 16) : d.digitChar ≠ '_' := by interval_cases d <;> decide
  induction n using Nat.strongRecOn with
  | _ n ih =>
    by_cases h : n < 16
    · rw [Nat.toDigits_of_lt_base h, List.mem_singleton]
      exact (hdigit n h).symm
    · rw [Nat.toDigits_of_base_le (by decide) (not_lt.mp h), List.mem_append, List.mem_singleton]
      rintro (hmem | heq)
      · exact ih _ (by omega) hmem
      · exact hdigit _ (Nat.mod_lt n (by decide)) heq.symm

lemma underscore_notMem_hexDigits8 (n : Nat) : '_' ∉ hexDigits8 n := by
  rw [hexDigits8, List.mem_append, List.mem_replicate]
  rintro (⟨-, h⟩ | h)
  · cases h
  · exact underscore_notMem_toDigits n h

lemma takeWhile_hexDigits8 (n : Nat) (rest : List Char) :
    (hexDigits8 n ++ '_' :: rest).takeWhile (· ≠ '_') = hexDigits8 n := by
  have hne : ∀ c ∈ hexDigits8 n, decide (c ≠ '_') = true := fun c hc =>
    decide_eq_true fun h => underscore_notMem_hexDigits8 n (h ▸ hc)
  rw [List.takeWhile_append_of_pos hne, List.takeWhile_cons_of_neg (by simp), List.append_nil]

end EdaGym
