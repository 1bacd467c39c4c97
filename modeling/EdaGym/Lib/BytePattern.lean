import EdaGym.Lib.Lines

/-!
# Byte patterns

Regular expressions over bytes as a backtracking engine matches them: from a place in a string, a
pattern gives the places where it may stop, the one the engine tries first at the front.
-/

namespace EdaGym

/-- The bytes before a place, the nearest first, and the bytes after it. -/
structure Place where
  before : Bytes
  after : Bytes

/-- The bytes from one place to a later one. -/
def Place.upTo (p q : Place) : Bytes := p.after.take (p.after.length - q.after.length)

inductive BytePattern
  | empty
  | one (accepts : UInt8 → Bool)
  | seq (first next : BytePattern)
  | alt (first other : BytePattern)
  /-- Greedy; without `high`, as often as the string allows. -/
  | rep (body : BytePattern) (low : Nat) (high : Option Nat)
  /-- A word boundary. -/
  | boundary
  /-- A negative look-behind of one byte. -/
  | notAfter (accepts : UInt8 → Bool)

def ord (c : Char) : UInt8 := c.toNat.toUInt8

/-- A bracketed class, as it is spelled in a pattern. -/
def inClass : List Char → UInt8 → Bool
  | a :: '-' :: c :: rest, b => (ord a ≤ b && b ≤ ord c) || inClass rest b
  | a :: rest, b => b == ord a || inClass rest b
  | [], _ => false

def isWordByte (b : UInt8) : Bool := inClass "A-Za-z0-9_".toList b

/-- Between `low` and `high` times, preferring more. -/
def repeatEnds (ends : Place → List Place) : (low high : Nat) → Place → List Place
  | low, 0, p => if low = 0 then [p] else []
  | low, high + 1, p =>
    (ends p).flatMap (repeatEnds ends (low - 1) high) ++ if low = 0 then [p] else []

namespace BytePattern

/-- Where a match that starts at a place may stop. -/
def ends : BytePattern → Place → List Place
  | empty, p => [p]
  | one accepts, ⟨before, b :: after⟩ => if accepts b then [⟨b :: before, after⟩] else []
  | one _, ⟨_, []⟩ => []
  | seq first next, p => (first.ends p).flatMap next.ends
  | alt first other, p => first.ends p ++ other.ends p
  | rep body low high, p => repeatEnds body.ends low (high.getD (low + p.after.length)) p
  | boundary, p =>
    if p.before.head?.any isWordByte ≠ p.after.head?.any isWordByte then [p] else []
  | notAfter accepts, p => if p.before.head?.any accepts then [] else [p]

/-! ### The spelling of patterns -/

def oneOf (spelled : String) : BytePattern := one (inClass spelled.toList)

def noneOf (spelled : String) : BytePattern := one fun b => !inClass spelled.toList b

def cat (patterns : List BytePattern) : BytePattern := patterns.foldr seq empty

/-- The first alternative is preferred. -/
def anyOf : List BytePattern → BytePattern
  | [] => one fun _ => false
  | [pattern] => pattern
  | pattern :: patterns => alt pattern (anyOf patterns)

def literal (s : String) : BytePattern := cat (s.toList.map fun c => one (· == ord c))

def opt (pattern : BytePattern) : BytePattern := rep pattern 0 (some 1)

def many (pattern : BytePattern) : BytePattern := rep pattern 0 none

def many1 (pattern : BytePattern) : BytePattern := rep pattern 1 none

def between (pattern : BytePattern) (low high : Nat) : BytePattern := rep pattern low (some high)

def swapCase (b : UInt8) : UInt8 :=
  if inClass "a-z".toList b then b - 32 else if inClass "A-Z".toList b then b + 32 else b

/-- `(?i)` -/
def ignoreCase : BytePattern → BytePattern
  | one accepts => one fun b => accepts b || accepts (swapCase b)
  | seq first next => seq first.ignoreCase next.ignoreCase
  | alt first other => alt first.ignoreCase other.ignoreCase
  | rep body low high => rep body.ignoreCase low high
  | pattern => pattern

end BytePattern

/-- What the matches found from a place on give, from left to right and without overlaps. Every
match is taken to be nonempty. -/
def finditer {α : Type} (found : Place → Option (α × Place)) : (steps : Nat) → Place → List α
  | 0, _ => []
  | steps + 1, p =>
    match found p, p.after with
    | some (value, q), _ => value :: finditer found steps q
    | none, b :: rest => finditer found steps ⟨b :: p.before, rest⟩
    | none, [] => []

end EdaGym
