import EdaGym.Lib.CanonicalJson
import Mathlib.Algebra.BigOperators.Group.List.Basic

/-!
# JSON in ASCII

The text that `json.dumps` writes with its escapes on and no white space. A string is a list of code
points, lone surrogates among them; every one outside of printable ASCII is written in hexadecimal.
-/

namespace EdaGym

/-! ### Strings -/

def unicodeEscape (n : Nat) : List Char :=
  ['\\', 'u', hexDigit (n / 4096 % 16), hexDigit (n / 256 % 16), hexDigit (n / 16 % 16),
    hexDigit (n % 16)]

/-- One code point of an ASCII JSON string; beyond the basic plane it is a pair of surrogates. -/
def asciiEscape (n : Nat) : List Char :=
  if n = 0x22 then ['\\', '"']
  else if n = 0x5c then ['\\', '\\']
  else if n = 0x08 then ['\\', 'b']
  else if n = 0x09 then ['\\', 't']
  else if n = 0x0a then ['\\', 'n']
  else if n = 0x0c then ['\\', 'f']
  else if n = 0x0d then ['\\', 'r']
  else if 0x20 ≤ n ∧ n ≤ 0x7e then [Char.ofNat n]
  else if n < 0x10000 then unicodeEscape n
  else
    let pair := n - 0x10000
    unicodeEscape (0xd800 + pair / 1024 % 1024) ++ unicodeEscape (0xdc00 + pair % 1024)

/-- Six characters for one that is not printable ASCII. -/
lemma six_le_asciiEscape_length {n : Nat} (h : 0x7e < n) : 6 ≤ (asciiEscape n).length := by
  rw [asciiEscape, if_neg (by omega), if_neg (by omega), if_neg (by omega), if_neg (by omega),
    if_neg (by omega), if_neg (by omega), if_neg (by omega), if_neg (by omega)]
  split_ifs <;> simp [unicodeEscape]

/-! ### Values -/

inductive AsciiJson
  | bool (value : Bool)
  | nat (value : Nat)
  | text (codePoints : List Nat)
  | list (items : List AsciiJson)
  | dict (fields : List (List Nat × AsciiJson))

namespace AsciiJson

def quoted (codePoints : List Nat) : List Char := '"' :: (codePoints.flatMap asciiEscape ++ ['"'])

mutual

def chars : AsciiJson → List Char
  | bool true => ['t', 'r', 'u', 'e']
  | bool false => ['f', 'a', 'l', 's', 'e']
  | nat n => Nat.toDigits 10 n
  | text s => quoted s
  | list items => '[' :: itemChars true items
  | dict fields => '{' :: fieldChars true fields

/-- The items of a list and its end; a comma stands before every item but the first. -/
def itemChars (first : Bool) : List AsciiJson → List Char
  | [] => [']']
  | v :: vs => (if first then [] else [',']) ++ (chars v ++ itemChars false vs)

def fieldChars (first : Bool) : List (List Nat × AsciiJson) → List Char
  | [] => ['}']
  | (k, v) :: kvs =>
    (if first then [] else [',']) ++ (quoted k ++ ':' :: (chars v ++ fieldChars false kvs))

end

/-! ### A text is at least as long as its parts -/

variable {v : AsciiJson}

lemma length_le_itemChars {items : List AsciiJson} (h : v ∈ items) (first : Bool) :
    v.chars.length ≤ (itemChars first items).length := by
  induction items generalizing first with
  | nil => cases h
  | cons w items ih =>
    rw [itemChars, List.length_append, List.length_append]
    rcases List.mem_cons.mp h with rfl | h
    · omega
    · have htail := ih h false
      omega

lemma length_le_fieldChars {fields : List (List Nat × AsciiJson)} {k : List Nat}
    (h : (k, v) ∈ fields) (first : Bool) :
    v.chars.length ≤ (fieldChars first fields).length := by
  induction fields generalizing first with
  | nil => cases h
  | cons field fields ih =>
    obtain ⟨k', w⟩ := field
    simp only [fieldChars, List.length_append, List.length_cons]
    rcases List.mem_cons.mp h with h | h
    · cases h
      omega
    · have htail := ih h false
      omega

lemma length_le_list {items : List AsciiJson} (h : v ∈ items) :
    v.chars.length ≤ (list items).chars.length :=
  (length_le_itemChars h true).trans (Nat.le_succ _)

lemma length_le_dict {fields : List (List Nat × AsciiJson)} {k : List Nat}
    (h : (k, v) ∈ fields) : v.chars.length ≤ (dict fields).chars.length :=
  (length_le_fieldChars h true).trans (Nat.le_succ _)

lemma six_mul_length_le_text {s : List Nat} (h : ∀ n ∈ s, 0x7e < n) :
    6 * s.length ≤ (text s).chars.length := by
  have hescaped : 6 * s.length ≤ (s.flatMap asciiEscape).length := by
    induction s with
    | nil => rfl
    | cons n s ih =>
      rw [List.forall_mem_cons] at h
      have hn := six_le_asciiEscape_length h.1
      have htail := ih h.2
      rw [List.flatMap_cons, List.length_append, List.length_cons]
      omega
  simp only [chars, quoted, List.length_cons, List.length_append]
  omega

end AsciiJson

end EdaGym
