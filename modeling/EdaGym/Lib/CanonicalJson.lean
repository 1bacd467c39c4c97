import Mathlib.Data.List.Infix
import Mathlib.Data.String.Basic
import Mathlib.Tactic.Lemma

/-!
# Canonical JSON

The canonical text of a JSON value has no white space and one spelling of every character. A value
can be read from the front of a text, so that the text determines the value.
-/

namespace EdaGym

/-! ### Strings -/

def hexDigit (n : Nat) : Char := if n < 10 then Char.ofNat (48 + n) else Char.ofNat (87 + n)

/-- One character of a canonical JSON string. -/
def jsonEscape (c : Char) : List Char :=
  if c = '"' then ['\\', '"']
  else if c = '\\' then ['\\', '\\']
  else if c.toNat = 8 then ['\\', 'b']
  else if c.toNat = 9 then ['\\', 't']
  else if c.toNat = 10 then ['\\', 'n']
  else if c.toNat = 12 then ['\\', 'f']
  else if c.toNat = 13 then ['\\', 'r']
  else if c.toNat < 32 then ['\\', 'u', '0', '0', hexDigit (c.toNat / 16), hexDigit (c.toNat % 16)]
  else [c]

def jsonString (s : String) : String :=
  "\"" ++ String.ofList (s.toList.flatMap jsonEscape) ++ "\""

/-! ### Values -/

/-- A JSON value; its numbers are natural. -/
inductive CanonicalJson
  | null
  | bool (b : Bool)
  | nat (n : Nat)
  | str (s : String)
  | arr (items : List CanonicalJson)
  | obj (fields : List (String × CanonicalJson))

namespace CanonicalJson

/-- A string between quotation marks. -/
def quoted (s : String) : List Char := '"' :: (s.toList.flatMap jsonEscape ++ ['"'])

mutual

/-- The canonical text of a value; the fields of an object stand as they are given. -/
def chars : CanonicalJson → List Char
  | null => ['n', 'u', 'l', 'l']
  | bool true => ['t', 'r', 'u', 'e']
  | bool false => ['f', 'a', 'l', 's', 'e']
  | nat n => Nat.toDigits 10 n
  | str s => quoted s
  | arr items => '[' :: itemChars true items
  | obj fields => '{' :: fieldChars true fields

/-- The items of an array and its end; a comma stands before every item but the first. -/
def itemChars (first : Bool) : List CanonicalJson → List Char
  | [] => [']']
  | v :: vs => (if first then [] else [',']) ++ (chars v ++ itemChars false vs)

def fieldChars (first : Bool) : List (String × CanonicalJson) → List Char
  | [] => ['}']
  | (k, v) :: kvs =>
    (if first then [] else [',']) ++ (quoted k ++ ':' :: (chars v ++ fieldChars false kvs))

end

def render (v : CanonicalJson) : String := String.ofList v.chars

/-! ### Reading a value from the front of a text -/

def hexValue (c : Char) : Nat := if c.toNat < 58 then c.toNat - 48 else c.toNat - 87

/-- The first character of an escaped text, and what follows it. -/
def unescape : List Char → Option (Char × List Char)
  | '\\' :: 'b' :: r => some (Char.ofNat 8, r)
  | '\\' :: 't' :: r => some (Char.ofNat 9, r)
  | '\\' :: 'n' :: r => some (Char.ofNat 10, r)
  | '\\' :: 'f' :: r => some (Char.ofNat 12, r)
  | '\\' :: 'r' :: r => some (Char.ofNat 13, r)
  | '\\' :: 'u' :: '0' :: '0' :: c :: c' :: r =>
    some (Char.ofNat (16 * hexValue c + hexValue c'), r)
  | '\\' :: c :: r => some (c, r)
  | c :: r => some (c, r)
  | [] => none

lemma hexValue_hexDigit : ∀ n < 32,
    16 * hexValue (hexDigit (n / 16)) + hexValue (hexDigit (n % 16)) = n := by
  decide

lemma unescape_of_ne {c : Char} (hc : c ≠ '\\') (r : List Char) :
    unescape (c :: r) = some (c, r) := by
  rw [unescape.eq_def]
  split <;> simp_all

lemma unescape_jsonEscape (c : Char) (r : List Char) :
    unescape (jsonEscape c ++ r) = some (c, r) := by
  have hnat : ∀ n, c.toNat = n → c = Char.ofNat n := fun n h => by rw [← h, Char.ofNat_toNat]
  rw [jsonEscape]
  split_ifs with hquote hslash h8 h9 h10 h12 h13 hcontrol
  · rw [hquote]
    rfl
  · rw [hslash]
    rfl
  · rw [hnat 8 h8]
    rfl
  · rw [hnat 9 h9]
    rfl
  · rw [hnat 10 h10]
    rfl
  · rw [hnat 12 h12]
    rfl
  · rw [hnat 13 h13]
    rfl
  · have hvalue := hexValue_hexDigit c.toNat hcontrol
    simp only [List.cons_append, List.nil_append, unescape, hvalue, Char.ofNat_toNat]
  · exact unescape_of_ne hslash r

variable {r r' : List Char}

lemma jsonEscape_append_inj {c c' : Char}
    (h : jsonEscape c ++ r = jsonEscape c' ++ r') : c = c' ∧ r = r' := by
  have hread := congrArg unescape h
  rw [unescape_jsonEscape, unescape_jsonEscape, Option.some.injEq, Prod.mk.injEq] at hread
  exact hread

/-- An escaped character does not end the string. -/
lemma jsonEscape_append_ne (c : Char) (r r' : List Char) : jsonEscape c ++ r ≠ '"' :: r' := by
  intro h
  rw [jsonEscape] at h
  split_ifs at h with hquote
  all_goals
    first
    | exact absurd (List.cons.inj h).1 hquote
    | exact absurd (List.cons.inj h).1 (by decide)

lemma escaped_append_inj {cs cs' : List Char}
    (h : cs.flatMap jsonEscape ++ '"' :: r = cs'.flatMap jsonEscape ++ '"' :: r') :
    cs = cs' ∧ r = r' := by
  induction cs generalizing cs' with
  | nil =>
    cases cs' with
    | nil => exact ⟨rfl, (List.cons.inj h).2⟩
    | cons c' cs' =>
      rw [List.flatMap_cons, List.append_assoc] at h
      exact absurd h.symm (jsonEscape_append_ne _ _ _)
  | cons c cs ih =>
    rw [List.flatMap_cons, List.append_assoc] at h
    cases cs' with
    | nil => exact absurd h (jsonEscape_append_ne _ _ _)
    | cons c' cs' =>
      rw [List.flatMap_cons, List.append_assoc] at h
      obtain ⟨rfl, hrest⟩ := jsonEscape_append_inj h
      obtain ⟨rfl, hr⟩ := ih hrest
      exact ⟨rfl, hr⟩

lemma quoted_append_inj {s s' : String}
    (h : quoted s ++ r = quoted s' ++ r') : s = s' ∧ r = r' := by
  simp only [quoted, List.cons_append, List.append_assoc, List.nil_append, List.cons.injEq,
    true_and] at h
  obtain ⟨hs, hr⟩ := escaped_append_inj h
  exact ⟨String.toList_inj.mp hs, hr⟩

/-- No digit follows. -/
def Stops (r : List Char) : Prop := ∀ c ∈ r.head?, c.isDigit = false

lemma digits_append_inj {n n' : Nat} (hr : Stops r) (hr' : Stops r')
    (h : Nat.toDigits 10 n ++ r = Nat.toDigits 10 n' ++ r') : n = n' ∧ r = r' := by
  have hspan : ∀ (m : Nat) (t : List Char), Stops t →
      (Nat.toDigits 10 m ++ t).takeWhile Char.isDigit = Nat.toDigits 10 m := by
    intro m t ht
    rw [List.takeWhile_append_of_pos fun c hc => Nat.isDigit_of_mem_toDigits (by decide) le_rfl hc]
    cases t with
    | nil => simp
    | cons c t => simp [ht c rfl]
  have hdigits : Nat.toDigits 10 n = Nat.toDigits 10 n' := by
    rw [← hspan n r hr, h, hspan n' r' hr']
  refine ⟨?_, List.append_cancel_left (hdigits ▸ h)⟩
  rw [← Nat.ofDigitChars_ten_toDigits (n := n), hdigits, Nat.ofDigitChars_ten_toDigits]

/-! ### Values -/

/-- What the first character says of a value. -/
def kindOf (c : Char) : Nat :=
  if c = 'n' then 0
  else if c = 't' then 1
  else if c = 'f' then 2
  else if c = '"' then 3
  else if c = '[' then 4
  else if c = '{' then 5
  else 6

def kind : CanonicalJson → Nat
  | null => 0
  | bool true => 1
  | bool false => 2
  | str _ => 3
  | arr _ => 4
  | obj _ => 5
  | nat _ => 6

lemma exists_chars_eq (v : CanonicalJson) :
    ∃ c r, v.chars = c :: r ∧ kindOf c = v.kind ∧ c ≠ ']' := by
  match v with
  | null => exact ⟨_, _, rfl, rfl, by decide⟩
  | bool true => exact ⟨_, _, rfl, rfl, by decide⟩
  | bool false => exact ⟨_, _, rfl, rfl, by decide⟩
  | str s => exact ⟨_, _, rfl, rfl, by decide⟩
  | arr items => exact ⟨'[', itemChars true items, by rw [chars], rfl, by decide⟩
  | obj fields => exact ⟨'{', fieldChars true fields, by rw [chars], rfl, by decide⟩
  | nat n =>
    obtain ⟨c, r, hdigits⟩ := List.exists_cons_of_ne_nil (Nat.toDigits_ne_nil (n := n) (b := 10))
    refine ⟨c, r, by rw [chars, hdigits], ?_⟩
    have hdigit : c.isDigit = true :=
      Nat.isDigit_of_mem_toDigits (by decide) le_rfl (hdigits ▸ List.mem_cons_self)
    have hne : ∀ c' : Char, c'.isDigit = false → c ≠ c' := by
      rintro c' hc' rfl
      rw [hdigit] at hc'
      cases hc'
    refine ⟨?_, hne _ (by decide)⟩
    simp only [kindOf, kind, if_neg (hne _ (by decide : 'n'.isDigit = false)),
      if_neg (hne _ (by decide : 't'.isDigit = false)),
      if_neg (hne _ (by decide : 'f'.isDigit = false)),
      if_neg (hne _ (by decide : '"'.isDigit = false)),
      if_neg (hne _ (by decide : '['.isDigit = false)),
      if_neg (hne _ (by decide : '{'.isDigit = false))]

lemma kind_eq {v w : CanonicalJson} (h : v.chars ++ r = w.chars ++ r') : v.kind = w.kind := by
  obtain ⟨c, t, hv, hkind, -⟩ := exists_chars_eq v
  obtain ⟨c', t', hw, hkind', -⟩ := exists_chars_eq w
  rw [hv, hw, List.cons_append, List.cons_append, List.cons.injEq] at h
  rw [← hkind, ← hkind', h.1]

lemma stops_of_eq {c : Char} (hr : r = c :: r') (hc : c.isDigit = false) : Stops r := by
  rw [hr]
  intro c' hc'
  rwa [← Option.some.inj hc']

lemma stops_itemChars (vs : List CanonicalJson) (r : List Char) :
    Stops (itemChars false vs ++ r) := by
  cases vs with
  | nil =>
    have hend : itemChars false [] ++ r = ']' :: r := by rw [itemChars]; rfl
    exact stops_of_eq hend (by decide)
  | cons v vs =>
    have hcomma : itemChars false (v :: vs) ++ r = ',' :: (chars v ++ itemChars false vs ++ r) := by
      simp [itemChars]
    exact stops_of_eq hcomma (by decide)

lemma stops_fieldChars (kvs : List (String × CanonicalJson)) (r : List Char) :
    Stops (fieldChars false kvs ++ r) := by
  cases kvs with
  | nil =>
    have hend : fieldChars false [] ++ r = '}' :: r := by rw [fieldChars]; rfl
    exact stops_of_eq hend (by decide)
  | cons kv kvs =>
    obtain ⟨k, v⟩ := kv
    have hcomma : fieldChars false ((k, v) :: kvs) ++ r =
        ',' :: (quoted k ++ ':' :: (chars v ++ fieldChars false kvs) ++ r) := by
      simp [fieldChars]
    exact stops_of_eq hcomma (by decide)

lemma itemChars_cons_ne_nil (first : Bool) (v : CanonicalJson) (vs : List CanonicalJson)
    (r r' : List Char) : itemChars first (v :: vs) ++ r ≠ itemChars first [] ++ r' := by
  intro h
  cases first with
  | true =>
    obtain ⟨c, t, hv, -, hne⟩ := exists_chars_eq v
    rw [itemChars, itemChars, if_pos rfl, List.nil_append, hv] at h
    exact hne (List.cons.inj h).1
  | false =>
    simp [itemChars] at h

lemma fieldChars_cons_ne_nil (first : Bool) (kv : String × CanonicalJson)
    (kvs : List (String × CanonicalJson)) (r r' : List Char) :
    fieldChars first (kv :: kvs) ++ r ≠ fieldChars first [] ++ r' := by
  intro h
  cases first <;> simp [fieldChars, quoted] at h

mutual

/-- A value can be read from the front of a text that goes on with no digit. -/
theorem chars_append_inj {v w : CanonicalJson} {r r' : List Char} (hr : Stops r) (hr' : Stops r')
    (h : v.chars ++ r = w.chars ++ r') : v = w ∧ r = r' := by
  have hkind := kind_eq h
  match v with
  | null =>
    obtain rfl : w = null := by
      rcases w with _ | (_ | _) | n | s | vs | kvs <;> simp [kind] at hkind ⊢
    exact ⟨rfl, List.append_cancel_left h⟩
  | bool b =>
    obtain rfl : w = bool b := by
      cases b <;> rcases w with _ | (_ | _) | n | s | vs | kvs <;> simp [kind] at hkind ⊢
    exact ⟨rfl, List.append_cancel_left h⟩
  | nat n =>
    obtain ⟨n', rfl⟩ : ∃ n', w = nat n' := by
      rcases w with _ | (_ | _) | n | s | vs | kvs <;> simp [kind] at hkind ⊢
    rw [chars, chars] at h
    obtain ⟨rfl, hrest⟩ := digits_append_inj hr hr' h
    exact ⟨rfl, hrest⟩
  | str s =>
    obtain ⟨s', rfl⟩ : ∃ s', w = str s' := by
      rcases w with _ | (_ | _) | n | s | vs | kvs <;> simp [kind] at hkind ⊢
    rw [chars, chars] at h
    obtain ⟨rfl, hrest⟩ := quoted_append_inj h
    exact ⟨rfl, hrest⟩
  | arr vs =>
    obtain ⟨ws, rfl⟩ : ∃ ws, w = arr ws := by
      rcases w with _ | (_ | _) | n | s | vs | kvs <;> simp [kind] at hkind ⊢
    rw [chars, chars, List.cons_append, List.cons_append, List.cons.injEq] at h
    obtain ⟨rfl, hrest⟩ := itemChars_append_inj true h.2
    exact ⟨rfl, hrest⟩
  | obj kvs =>
    obtain ⟨kvs', rfl⟩ : ∃ kvs', w = obj kvs' := by
      rcases w with _ | (_ | _) | n | s | vs | kvs <;> simp [kind] at hkind ⊢
    rw [chars, chars, List.cons_append, List.cons_append, List.cons.injEq] at h
    obtain ⟨rfl, hrest⟩ := fieldChars_append_inj true h.2
    exact ⟨rfl, hrest⟩

theorem itemChars_append_inj (first : Bool) {vs ws : List CanonicalJson} {r r' : List Char}
    (h : itemChars first vs ++ r = itemChars first ws ++ r') : vs = ws ∧ r = r' := by
  match vs, ws with
  | [], [] => exact ⟨rfl, List.append_cancel_left h⟩
  | [], w :: ws => exact absurd h.symm (itemChars_cons_ne_nil _ _ _ _ _)
  | v :: vs, [] => exact absurd h (itemChars_cons_ne_nil _ _ _ _ _)
  | v :: vs, w :: ws =>
    simp only [itemChars, List.append_assoc] at h
    obtain ⟨rfl, hrest⟩ := chars_append_inj (stops_itemChars vs r) (stops_itemChars ws r')
      (List.append_cancel_left h)
    obtain ⟨rfl, hr⟩ := itemChars_append_inj false hrest
    exact ⟨rfl, hr⟩

theorem fieldChars_append_inj (first : Bool) {kvs kvs' : List (String × CanonicalJson)}
    {r r' : List Char} (h : fieldChars first kvs ++ r = fieldChars first kvs' ++ r') :
    kvs = kvs' ∧ r = r' := by
  match kvs, kvs' with
  | [], [] => exact ⟨rfl, List.append_cancel_left h⟩
  | [], kv :: kvs' => exact absurd h.symm (fieldChars_cons_ne_nil _ _ _ _ _)
  | kv :: kvs, [] => exact absurd h (fieldChars_cons_ne_nil _ _ _ _ _)
  | (k, v) :: kvs, (k', v') :: kvs' =>
    simp only [fieldChars, List.append_assoc, List.cons_append] at h
    obtain ⟨rfl, hvalue⟩ := quoted_append_inj (List.append_cancel_left h)
    obtain ⟨rfl, hrest⟩ := chars_append_inj (stops_fieldChars kvs r) (stops_fieldChars kvs' r')
      (List.cons.inj hvalue).2
    obtain ⟨rfl, hr⟩ := fieldChars_append_inj false hrest
    exact ⟨rfl, hr⟩

end

theorem render_inj {v w : CanonicalJson} : v.render = w.render ↔ v = w := by
  refine ⟨fun h => ?_, fun h => by rw [h]⟩
  have hchars : v.chars ++ [] = w.chars ++ [] := by
    rw [List.append_nil, List.append_nil]
    exact String.ofList_injective h
  exact (chars_append_inj (by simp [Stops]) (by simp [Stops]) hchars).1

end CanonicalJson

end EdaGym
