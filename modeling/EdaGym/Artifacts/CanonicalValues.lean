import EdaGym.Artifacts.Manifest
import Mathlib.Data.List.Sort

/-!
# What a canonical digest hashes

A value is turned into a JSON value, `rfc8785.dumps` writes that as bytes, and the digest is of the
domain and these bytes. The `dumps` is a parameter.
-/

namespace EdaGym

/-- A value to hash. The items of a set stand in the order in which it is iterated. -/
inductive CanonicalValue
  | null
  | bool (b : Bool)
  | int (n : Int)
  | str (s : String)
  | mapping (fields : List (String × CanonicalValue))
  | sequence (items : List CanonicalValue)
  | set (items : List CanonicalValue)

/-- A JSON value. A `dict` has no order, so that its fields stand by their keys. -/
inductive JsonValue
  | null
  | bool (b : Bool)
  | int (n : Int)
  | str (s : String)
  | dict (fields : List (String × JsonValue))
  | list (items : List JsonValue)
deriving Inhabited

def JsonValue.ofFields (fields : List (String × JsonValue)) : JsonValue :=
  .dict (fields.insertionSort fun field field' => field.1 ≤ field'.1)

/-- `rfc8785.dumps`, which raises on what JSON has no canonical text for. -/
class Rfc8785 where
  dumps : JsonValue → Option Bytes

open Rfc8785

section Values

variable [Rfc8785]

def sortKey (item : JsonValue) : Bytes := (dumps item).getD []

/-- `sorted(items, key=canonical_bytes)`, of JSON values, of which `_json_value` makes copies. -/
def sortedItems (items : List JsonValue) : Option (List JsonValue) :=
  if items.all fun item => (dumps item).isSome then
    some (items.insertionSort fun item item' => sortKey item ≤ sortKey item')
  else none

mutual

/-- `_json_value`. -/
def jsonValue : CanonicalValue → Option JsonValue
  | .null => some .null
  | .bool b => some (.bool b)
  | .int n => some (.int n)
  | .str s => some (.str s)
  | .mapping fields => (jsonFields fields).map .ofFields
  | .sequence items => (jsonItems items).map .list
  | .set items => ((jsonItems items).bind sortedItems).map .list

def jsonItems : List CanonicalValue → Option (List JsonValue)
  | [] => some []
  | v :: vs => do
    let item ← jsonValue v
    let items ← jsonItems vs
    some (item :: items)

def jsonFields : List (String × CanonicalValue) → Option (List (String × JsonValue))
  | [] => some []
  | (key, v) :: fields => do
    let item ← jsonValue v
    let fields ← jsonFields fields
    some ((key, item) :: fields)

end

def canonicalBytes (value : CanonicalValue) : Option Bytes := (jsonValue value).bind dumps

/-- The payload of `canonical_digest`. -/
def digestPayload (domain : String) (value : CanonicalValue) : Option Bytes := do
  if domain = "" ∨ Char.ofNat 0 ∈ domain.toList then none
  else
    let bytes ← canonicalBytes value
    some (utf8 "edagym" ++ [0] ++ utf8 domain ++ [0] ++ bytes)

end Values

/-! ### Domains -/

lemma zero_notMem_utf8 {s : String} (h : Char.ofNat 0 ∉ s.toList) : 0 ∉ utf8 s := by
  have hbytes : utf8 s = s.toList.flatMap String.utf8EncodeChar := by
    obtain ⟨cs, rfl⟩ : ∃ cs, s = String.ofList cs := ⟨s.toList, String.ofList_toList.symm⟩
    simp [utf8, List.utf8Encode]
  rw [hbytes, List.mem_flatMap]
  rintro ⟨c, hc, hzero⟩
  have hnul : c.val.toNat = 0 := by
    simp only [String.utf8EncodeChar] at hzero
    split_ifs at hzero
    all_goals
      simp only [List.mem_cons, List.not_mem_nil, or_false, ← UInt8.toNat_inj,
        UInt8.toNat_ofNat', UInt8.toNat_zero] at hzero
      omega
  exact h (by rwa [← hnul, show c.val.toNat = c.toNat from rfl, Char.ofNat_toNat])

/-- What stands before the first zero, and what stands after it. -/
lemma append_zero_inj {a b x y : Bytes} (ha : 0 ∉ a) (hb : 0 ∉ b)
    (h : a ++ 0 :: x = b ++ 0 :: y) : a = b ∧ x = y := by
  induction a generalizing b with
  | nil =>
    cases b with
    | nil => exact ⟨rfl, (List.cons.inj h).2⟩
    | cons c b => exact absurd (List.cons.inj h).1 (List.ne_of_not_mem_cons hb)
  | cons c a ih =>
    cases b with
    | nil => exact absurd (List.cons.inj h).1.symm (List.ne_of_not_mem_cons ha)
    | cons c' b =>
      obtain ⟨rfl, hrest⟩ := List.cons.inj h
      obtain ⟨rfl, hxy⟩ := ih (List.not_mem_of_not_mem_cons ha)
        (List.not_mem_of_not_mem_cons hb) hrest
      exact ⟨rfl, hxy⟩

/-! ### Sets -/

lemma isSome_of_perm {α β γ : Type} {f : α → Option γ} {g : β → Option γ} {xs : List α}
    {ys : List β} (h : (xs.map f).Perm (ys.map g)) (hall : ∀ x ∈ xs, (f x).isSome) :
    ∀ y ∈ ys, (g y).isSome := by
  intro y hy
  obtain ⟨x, hx, heq⟩ := List.mem_map.mp (h.mem_iff.mpr (List.mem_map_of_mem hy))
  exact heq ▸ hall x hx

section Sets

variable [Rfc8785] {items items' : List CanonicalValue}

lemma jsonItems_of_isSome (h : ∀ item ∈ items, (canonicalBytes item).isSome) :
    ∃ values, jsonItems items = some values ∧ values.map dumps = items.map canonicalBytes := by
  induction items with
  | nil => exact ⟨[], rfl, rfl⟩
  | cons item items ih =>
    obtain ⟨values, hvalues, hdumps⟩ := ih fun item hitem => h item (List.mem_cons_of_mem _ hitem)
    obtain ⟨bytes, hbytes⟩ := Option.isSome_iff_exists.mp (h item List.mem_cons_self)
    obtain ⟨value, hvalue, -⟩ := Option.bind_eq_some_iff.mp hbytes
    refine ⟨value :: values, by simp [jsonItems, hvalue, hvalues], ?_⟩
    rw [List.map_cons, List.map_cons, hdumps, canonicalBytes, hvalue, Option.bind_some]

/-- A set is written only if each of its items is. -/
lemma isSome_of_set {bytes : Bytes} (h : canonicalBytes (.set items) = some bytes) :
    ∀ item ∈ items, (canonicalBytes item).isSome := by
  simp only [canonicalBytes, jsonValue, Option.bind_eq_some_iff, Option.map_eq_some_iff] at h
  obtain ⟨-, ⟨sorted, ⟨values, hvalues, hsorted⟩, -⟩, -⟩ := h
  rw [sortedItems, Option.ite_none_right_eq_some] at hsorted
  have hall := List.all_eq_true.mp hsorted.1
  clear hsorted
  induction items generalizing values with
  | nil => simp
  | cons item items ih =>
    simp only [jsonItems, Option.bind_eq_bind, Option.bind_eq_some_iff,
      Option.some.injEq] at hvalues
    obtain ⟨value, hvalue, rest, hrest, rfl⟩ := hvalues
    refine List.forall_mem_cons.mpr ⟨?_, ih _ hrest fun v hv => hall v (List.mem_cons_of_mem _ hv)⟩
    rw [canonicalBytes, hvalue]
    exact hall value List.mem_cons_self

/-- The bytes of a value are those of no other. -/
def DumpsInjective : Prop :=
  ∀ v w bytes, dumps v = some bytes → dumps w = some bytes → v = w

lemma sortedItems_eq_of_perm (hinj : DumpsInjective) {values values' : List JsonValue}
    (hall : ∀ v ∈ values, (dumps v).isSome) (h : values.Perm values') :
    sortedItems values = sortedItems values' := by
  have hall' : ∀ v ∈ values', (dumps v).isSome := fun v hv => hall v (h.mem_iff.mpr hv)
  rw [sortedItems, sortedItems, if_pos (List.all_eq_true.mpr hall),
    if_pos (List.all_eq_true.mpr hall'), Option.some.injEq]
  let r : JsonValue → JsonValue → Prop := fun v w => sortKey v ≤ sortKey w
  have : Std.Total r := ⟨fun v w => List.le_total (sortKey v) (sortKey w)⟩
  have : IsTrans JsonValue r := ⟨fun _ _ _ => List.le_trans⟩
  have hsorted : ∀ vs : List JsonValue, ∀ v ∈ vs.insertionSort r, v ∈ vs := fun _ _ hv =>
    (List.perm_insertionSort r _).mem_iff.mp hv
  refine @List.Perm.eq_of_pairwise _ r _ _ ?_ (List.pairwise_insertionSort r _)
    (List.pairwise_insertionSort r _) ?_
  · intro v w hv hw hvw hwv
    obtain ⟨bytes, hbytes⟩ := Option.isSome_iff_exists.mp (hall v (hsorted _ v hv))
    obtain ⟨bytes', hbytes'⟩ := Option.isSome_iff_exists.mp (hall' w (hsorted _ w hw))
    have hkey : sortKey v = sortKey w := List.le_antisymm hvw hwv
    rw [sortKey, sortKey, hbytes, hbytes', Option.getD_some, Option.getD_some] at hkey
    exact hinj v w bytes hbytes (hkey ▸ hbytes')
  · exact (List.perm_insertionSort r _).trans (h.trans (List.perm_insertionSort r _).symm)

lemma perm_of_dumps (hinj : DumpsInjective) {values values' : List JsonValue}
    (hall : ∀ v ∈ values, (dumps v).isSome) (h : (values.map dumps).Perm (values'.map dumps)) :
    values.Perm values' := by
  have hwritten : Set.InjOn dumps {v : JsonValue | (dumps v).isSome} := by
    intro v hv w _ heq
    obtain ⟨bytes, hbytes⟩ := Option.isSome_iff_exists.mp hv
    exact hinj v w bytes hbytes (heq ▸ hbytes)
  have hread : ∀ vs : List JsonValue, (∀ v ∈ vs, (dumps v).isSome) →
      (vs.map dumps).map (Function.invFunOn dumps {v : JsonValue | (dumps v).isSome}) = vs := by
    intro vs hvs
    rw [List.map_map]
    exact (List.map_congr_left fun v hv => hwritten.leftInvOn_invFunOn (hvs v hv)).trans
      (List.map_id vs)
  have := h.map (Function.invFunOn dumps {v : JsonValue | (dumps v).isSome})
  rwa [hread values hall, hread values' (isSome_of_perm h hall)] at this

/-- A set is written by what its items are written as. -/
lemma canonicalBytes_set (hinj : DumpsInjective)
    (h : (items.map canonicalBytes).Perm (items'.map canonicalBytes)) :
    canonicalBytes (.set items) = canonicalBytes (.set items') := by
  by_cases hall : ∀ item ∈ items, (canonicalBytes item).isSome
  · obtain ⟨values, hvalues, hdumps⟩ := jsonItems_of_isSome hall
    obtain ⟨values', hvalues', hdumps'⟩ := jsonItems_of_isSome (isSome_of_perm h hall)
    have hvs : ∀ v ∈ values, (dumps v).isSome := isSome_of_perm (.of_eq hdumps.symm) hall
    rw [← hdumps, ← hdumps'] at h
    rw [canonicalBytes, canonicalBytes, jsonValue, jsonValue, hvalues, hvalues', Option.bind_some,
      Option.bind_some, sortedItems_eq_of_perm hinj hvs (perm_of_dumps hinj hvs h)]
  · have hnone : ∀ {xs : List CanonicalValue}, ¬ (∀ x ∈ xs, (canonicalBytes x).isSome) →
        canonicalBytes (.set xs) = none := fun hxs =>
      Option.eq_none_iff_forall_ne_some.mpr fun _ hbytes => hxs (isSome_of_set hbytes)
    rw [hnone hall, hnone fun hall' => hall (isSome_of_perm h.symm hall')]

theorem digestPayload_exact (hinj : DumpsInjective) :
    (∀ domain domain' value value' payload, digestPayload domain value = some payload →
      digestPayload domain' value' = some payload →
        domain = domain' ∧ jsonValue value = jsonValue value') ∧
    ∀ items items', (items.map canonicalBytes).Perm (items'.map canonicalBytes) →
      canonicalBytes (.set items) = canonicalBytes (.set items') := by
  refine ⟨fun domain domain' value value' payload h h' => ?_, fun _ _ => canonicalBytes_set hinj⟩
  simp only [digestPayload, Option.bind_eq_bind, Option.ite_none_left_eq_some,
    Option.bind_eq_some_iff, not_or, Option.some.injEq] at h h'
  obtain ⟨⟨-, hnul⟩, bytes, hbytes, rfl⟩ := h
  obtain ⟨⟨-, hnul'⟩, bytes', hbytes', heq⟩ := h'
  simp only [List.append_assoc, List.singleton_append, List.append_cancel_left_eq] at heq
  obtain ⟨hdomain, rfl⟩ := append_zero_inj (zero_notMem_utf8 hnul') (zero_notMem_utf8 hnul)
    (List.cons.inj heq).2
  obtain ⟨json, hjson, hdumps⟩ := Option.bind_eq_some_iff.mp hbytes
  obtain ⟨json', hjson', hdumps'⟩ := Option.bind_eq_some_iff.mp hbytes'
  exact ⟨(utf8_inj hdomain).symm, by rw [hjson, hjson', hinj _ _ _ hdumps hdumps']⟩

end Sets

section Tabulated

def tabulatedDumps : JsonValue → Option Bytes
  | .int 1 => some (utf8 "1")
  | .list [.int 1] => some (utf8 "[1]")
  | .list [.list [.int 1]] => some (utf8 "[[1]]")
  | .list [.list [.int 1], .list [.int 1]] => some (utf8 "[[1],[1]]")
  | _ => none

local instance : Rfc8785 := ⟨tabulatedDumps⟩

lemma tabulatedDumps_inj : DumpsInjective := by
  have hread : ∀ v bytes, tabulatedDumps v = some bytes → v = match bytes.length with
      | 1 => .int 1
      | 3 => .list [.int 1]
      | 5 => .list [.list [.int 1]]
      | _ => .list [.list [.int 1], .list [.int 1]] := by
    intro v bytes h
    unfold tabulatedDumps at h
    split at h <;> cases h <;> rfl
  intro v w bytes hv hw
  rw [hread v bytes hv, hread w bytes hw]

/-- `{(1,), frozenset({1})}`, in both orders. -/
theorem digestPayload_exact_ones :
    canonicalBytes (.set [.sequence [.int 1], .set [.int 1]]) =
      canonicalBytes (.set [.set [.int 1], .sequence [.int 1]]) :=
  (digestPayload_exact tabulatedDumps_inj).2 _ _ (List.Perm.swap _ _ _)

/-- It is written with both items, though they are written alike. -/
theorem ones_distinct :
    (∀ bytes, bytes ∈ [.sequence [.int 1], .set [.int 1]].map canonicalBytes ↔
      bytes ∈ [CanonicalValue.sequence [.int 1]].map canonicalBytes) ∧
    canonicalBytes (.set [.sequence [.int 1], .set [.int 1]]) ≠
      canonicalBytes (.set [.sequence [.int 1]]) := by
  have halike : canonicalBytes (.set [.int 1]) = canonicalBytes (.sequence [.int 1]) := by decide
  exact ⟨by simp [halike], by decide⟩

end Tabulated

end EdaGym
