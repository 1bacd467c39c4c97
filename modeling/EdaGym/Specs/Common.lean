import EdaGym.Lib.Dict
import EdaGym.Lib.Raise
import Mathlib.Data.List.Sort
import Mathlib.Data.String.Basic
import Mathlib.Data.Rat.Defs
import Mathlib.Algebra.Order.Ring.Rat

/-!
# Closed domain types shared by the specifications

Identifiers, digests and seeds are strings compared for equality and sorted by code point; the
lexical patterns of their validators are read by no function of this development. Decimals are
finite and normalised, so two of them are equal exactly when their values are: they are
rationals here.
-/

namespace EdaGym

abbrev Identifier := String
abbrev Digest := String
abbrev Seed128Hex := String
abbrev ModelLabel := String
abbrev ServiceTierLabel := String
abbrev MediaType := String
abbrev CanonicalDecimal := ℚ

/-- Event identities; only their equality is read. -/
abbrev UUID := Nat

/-- Time-zone aware instants, normalised to UTC, in microseconds. -/
abbrev Datetime := Int

def JCS_INTEGER_MAX : Nat := 2 ^ 53 - 1

inductive Sensitivity
  | pub | internal | confidential | secret
deriving DecidableEq, Repr

inductive Redistribution
  | allowed | restricted | forbidden
deriving DecidableEq, Repr

inductive Visibility
  | pub | participant | reviewer | verifier | author
deriving DecidableEq, Repr

/-! The defaults of the structures hold by these facts. -/

/-- `str.removeprefix`: drops `p` from the front of `s` where it stands there. -/
def removeLeading (p s : String) : String :=
  if p.toList.isPrefixOf s.toList then String.ofList (s.toList.drop p.toList.length) else s

lemma removeLeading_append (p s : String) : removeLeading p (p ++ s) = s := by
  simp [removeLeading, String.toList_append]

lemma sorted_nil : ([] : List Identifier).Pairwise (· < ·) := .nil

lemma sorted_singleton (id : Identifier) : [id].Pairwise (· < ·) := List.pairwise_singleton _ id

lemma refs_nil : ([] : List Identifier) = [] := rfl

lemma Sensitivity.internal_ne_secret : Sensitivity.internal ≠ .secret := by decide

lemma Sensitivity.confidential_ne_secret : Sensitivity.confidential ≠ .secret := by decide

lemma Visibility.participant_private (s : Sensitivity) (r : Redistribution) :
    Visibility.participant = .pub → s = .pub ∧ r = .allowed := fun h => by cases h

lemma Visibility.verifier_private (s : Sensitivity) (r : Redistribution) :
    Visibility.verifier = .pub → s = .pub ∧ r = .allowed := fun h => by cases h

lemma Visibility.author_private (s : Sensitivity) (r : Redistribution) :
    Visibility.author = .pub → s = .pub ∧ r = .allowed := fun h => by cases h

inductive ProviderResponseStatus
  | completed | incomplete | failed | inProgress | queued | cancelled
deriving DecidableEq, Repr

inductive Capability
  | hwIrLowering | rtlSimulation | rtlLint | cdcRdc | formalProperty | equivalence
  | asicSynthesis | staticTiming | digitalImplementation | powerAnalysis | powerIntegrity
  | parasiticExtraction | physicalVerification | circuitSimulation | fpgaImplementation
  | highLevelSynthesis | designForTest | cellCharacterization
deriving DecidableEq, Repr

def Capability.value : Capability → String
  | .hwIrLowering => "hw.ir_lowering"
  | .rtlSimulation => "rtl.simulation"
  | .rtlLint => "rtl.lint"
  | .cdcRdc => "rtl.cdc_rdc"
  | .formalProperty => "formal.property"
  | .equivalence => "formal.equivalence"
  | .asicSynthesis => "asic.synthesis"
  | .staticTiming => "asic.sta"
  | .digitalImplementation => "asic.pnr"
  | .powerAnalysis => "asic.power_analysis"
  | .powerIntegrity => "asic.power_integrity"
  | .parasiticExtraction => "asic.parasitic_extraction"
  | .physicalVerification => "physical.verification"
  | .circuitSimulation => "circuit.simulation"
  | .fpgaImplementation => "fpga.implementation"
  | .highLevelSynthesis => "hls.synthesis"
  | .designForTest => "dft.insertion"
  | .cellCharacterization => "cell.characterization"

inductive ArtifactClass
  | ephemeral | diagnostic | candidate | checkpoint | evidence | measurement | release | training
deriving DecidableEq, Repr

/-- The visibilities an event or resource of the given visibility may refer to. -/
def Visibility.mayReference : Visibility → List Visibility
  | .pub => [.pub]
  | .participant => [.pub, .participant]
  | .reviewer => [.pub, .participant, .reviewer]
  | .verifier => [.pub, .participant, .verifier]
  | .author => [.pub, .participant, .reviewer, .verifier, .author]

/-- `sorted(xs, key=key)` on string keys. -/
def sortedBy {α : Type*} (key : α → String) (xs : List α) : List α :=
  xs.insertionSort fun a b => key a ≤ key b

/-- `sorted(xs)` on strings. -/
def sortedStrings (xs : List String) : List String := xs.insertionSort (· ≤ ·)

@[simp] lemma mem_sortedStrings {x : String} {xs : List String} :
    x ∈ sortedStrings xs ↔ x ∈ xs :=
  List.mem_insertionSort _

lemma sortedStrings_perm (xs : List String) : (sortedStrings xs).Perm xs :=
  List.perm_insertionSort _ xs

lemma sortedStrings_eq_of_perm {xs ys : List String} (h : xs.Perm ys) :
    sortedStrings xs = sortedStrings ys := by
  refine @List.Perm.eq_of_pairwise _ (· ≤ ·) _ _ ?_ (List.pairwise_insertionSort _ _)
    (List.pairwise_insertionSort _ _) ?_
  · intro a b _ _ hab hba
    exact le_antisymm hab hba
  · exact (sortedStrings_perm xs).trans (h.trans (sortedStrings_perm ys).symm)

lemma sortedStrings_pairwise {xs : List String} (h : xs.Nodup) :
    (sortedStrings xs).Pairwise (· < ·) := by
  have hsorted : (sortedStrings xs).Pairwise (· ≤ ·) := List.pairwise_insertionSort _ _
  have hnodup : (sortedStrings xs).Nodup := (List.perm_insertionSort _ xs).nodup_iff.mpr h
  exact (hsorted.and hnodup).imp fun h => lt_of_le_of_ne h.1 h.2

@[simp] lemma mem_sortedBy {α : Type*} {key : α → String} {x : α} {xs : List α} :
    x ∈ sortedBy key xs ↔ x ∈ xs :=
  List.mem_insertionSort _

lemma sortedBy_perm {α : Type*} (key : α → String) (xs : List α) : (sortedBy key xs).Perm xs :=
  List.perm_insertionSort _ xs

/-- `sorted(xs, key=key)` on keys of any linear order. -/
def sortedOn {α κ : Type*} [LinearOrder κ] (key : α → κ) (xs : List α) : List α :=
  xs.insertionSort fun a b => key a ≤ key b

lemma sortedOn_perm {α κ : Type*} [LinearOrder κ] (key : α → κ) (xs : List α) :
    (sortedOn key xs).Perm xs :=
  List.perm_insertionSort _ xs

instance keyTotal {α κ : Type*} [LinearOrder κ] (key : α → κ) :
    Std.Total fun a b : α => key a ≤ key b :=
  ⟨fun a b => le_total (key a) (key b)⟩

instance keyTrans {α κ : Type*} [LinearOrder κ] (key : α → κ) :
    IsTrans α fun a b => key a ≤ key b :=
  ⟨fun _ _ _ => le_trans⟩

/-- Where keys tell elements apart, the order of the input is forgotten. -/
lemma sortedOn_eq_of_perm {α κ : Type*} [LinearOrder κ] {key : α → κ} {xs ys : List α}
    (hkey : ∀ a ∈ xs, ∀ b ∈ xs, key a = key b → a = b) (h : xs.Perm ys) :
    sortedOn key xs = sortedOn key ys := by
  refine @List.Perm.eq_of_pairwise _ (fun a b => key a ≤ key b) _ _ ?_
    (List.pairwise_insertionSort _ _) (List.pairwise_insertionSort _ _) ?_
  · intro a b ha hb hab hba
    have ha' : a ∈ xs := (sortedOn_perm key xs).subset ha
    have hb' : b ∈ xs := h.symm.subset ((sortedOn_perm key ys).subset hb)
    exact hkey a ha' b hb' (le_antisymm hab hba)
  · exact (sortedOn_perm key xs).trans (h.trans (sortedOn_perm key ys).symm)

/-- Sorting twice sorts once. -/
lemma sortedBy_sortedBy {α : Type*} (key : α → String) (xs : List α) :
    sortedBy key (sortedBy key xs) = sortedBy key xs :=
  List.Pairwise.insertionSort_eq (List.pairwise_insertionSort _ xs)

/-- Two lists with the same members: equality of the sets built from them. -/
def SameSet {α : Type*} (xs ys : List α) : Prop := (∀ x ∈ xs, x ∈ ys) ∧ ∀ y ∈ ys, y ∈ xs

instance {α : Type*} [DecidableEq α] (xs ys : List α) : Decidable (SameSet xs ys) :=
  inferInstanceAs (Decidable (_ ∧ _))

lemma SameSet.mem_iff {α : Type*} {xs ys : List α} (h : SameSet xs ys) {x : α} :
    x ∈ xs ↔ x ∈ ys :=
  ⟨h.1 x, h.2 x⟩

lemma SameSet.congr {α : Type*} {xs xs' ys : List α} (h : SameSet xs ys) (hperm : xs'.Perm xs) :
    SameSet xs' ys :=
  ⟨fun x hx => h.1 x (hperm.subset hx), fun y hy => hperm.symm.subset (h.2 y hy)⟩

lemma exists_find?_eq_some {α : Type} {p : α → Prop} [DecidablePred p] {xs : List α} {x : α}
    (hx : x ∈ xs) (hp : p x) : ∃ y ∈ xs, xs.find? (fun y => p y) = some y ∧ p y := by
  obtain ⟨y, hy⟩ := Option.isSome_iff_exists.mp
    (List.find?_isSome (p := fun y => decide (p y)).mpr ⟨x, hx, decide_eq_true hp⟩)
  have hpy := List.find?_some hy
  simp only [decide_eq_true_eq] at hpy
  exact ⟨y, List.mem_of_find?_eq_some hy, hy, hpy⟩

/-- The `repr` of a string without quotes or escapes, as error messages show it. -/
def reprString (s : String) : String := "'" ++ s ++ "'"

def reprStrings (xs : List String) : String :=
  "[" ++ String.intercalate ", " (xs.map reprString) ++ "]"

end EdaGym
