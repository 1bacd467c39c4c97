import Mathlib.Data.List.Nodup
import Mathlib.Data.List.Basic
import Mathlib.Data.List.Induction
import Mathlib.Data.List.Perm.Subperm

/-!
# Insertion-ordered dictionaries

A dictionary is an association list whose keys are pairwise distinct. Writing to a present key
keeps its position, writing to a fresh key appends; iteration follows the entries. Every
operation is specified by what `get?` reads back afterwards.
-/

namespace EdaGym

universe u v
variable {κ : Type u} {ν : Type v} [DecidableEq κ]

/-- An association list with pairwise distinct keys. -/
structure Dict (κ : Type u) (ν : Type v) where
  entries : List (κ × ν)
  nodup : (entries.map Prod.fst).Nodup

namespace Dict

instance [DecidableEq ν] : DecidableEq (Dict κ ν) := fun d d' =>
  decidable_of_iff (d.entries = d'.entries) (by cases d; cases d'; simp)

def empty : Dict κ ν := ⟨[], List.nodup_nil⟩

instance : Inhabited (Dict κ ν) := ⟨empty⟩

def keys (d : Dict κ ν) : List κ := d.entries.map Prod.fst

def values (d : Dict κ ν) : List ν := d.entries.map Prod.snd

def isEmpty (d : Dict κ ν) : Bool := d.entries.isEmpty

def get? (d : Dict κ ν) (k : κ) : Option ν :=
  (d.entries.find? fun p => p.1 = k).map Prod.snd

instance : Membership κ (Dict κ ν) := ⟨fun d k => k ∈ d.keys⟩

instance (k : κ) (d : Dict κ ν) : Decidable (k ∈ d) := inferInstanceAs (Decidable (k ∈ d.keys))

/-! ### Reading -/

variable {d : Dict κ ν} {k : κ} {v : ν}

lemma get?_eq_some_iff : d.get? k = some v ↔ (k, v) ∈ d.entries := by
  obtain ⟨es, hes⟩ := d
  simp only [get?]
  induction es with
  | nil => simp
  | cons p ps ih =>
    obtain ⟨k', v'⟩ := p
    simp only [List.map_cons, List.nodup_cons] at hes
    by_cases hk : k' = k
    · subst hk
      have hnot : ∀ w, (k', w) ∉ ps := fun w hw =>
        hes.1 (List.mem_map.mpr ⟨(k', w), hw, rfl⟩)
      simp [hnot, eq_comm]
    · have hk' : ¬ k = k' := fun h => hk h.symm
      simp [hk, hk', ih hes.2]

lemma mem_iff : k ∈ d ↔ ∃ v, d.get? k = some v := by
  simp only [get?_eq_some_iff]
  change k ∈ d.entries.map Prod.fst ↔ _
  simp

lemma get?_eq_none_iff : d.get? k = none ↔ k ∉ d := by
  rw [mem_iff, Option.eq_none_iff_forall_not_mem]
  simp

lemma mem_of_get? (h : d.get? k = some v) : k ∈ d :=
  mem_iff.mpr ⟨v, h⟩

omit [DecidableEq κ] in
lemma mem_keys : k ∈ d.keys ↔ k ∈ d := Iff.rfl

lemma mem_values : v ∈ d.values ↔ ∃ k, d.get? k = some v := by
  simp only [get?_eq_some_iff, values, List.mem_map, Prod.exists, exists_eq_right]

lemma mem_entries {p : κ × ν} : p ∈ d.entries ↔ d.get? p.1 = some p.2 :=
  get?_eq_some_iff.symm

lemma isEmpty_iff : d.isEmpty = true ↔ ∀ k, d.get? k = none := by
  rw [isEmpty, List.isEmpty_iff]
  constructor
  · intro h k
    rw [get?_eq_none_iff]
    change k ∉ d.entries.map Prod.fst
    simp [h]
  · intro h
    rw [List.eq_nil_iff_forall_not_mem]
    rintro ⟨k, v⟩ hp
    rw [← get?_eq_some_iff, h k] at hp
    cases hp

@[simp] lemma get?_empty (k : κ) : (empty : Dict κ ν).get? k = none := rfl

@[simp] lemma not_mem_empty (k : κ) : k ∉ (empty : Dict κ ν) := by
  rw [← get?_eq_none_iff, get?_empty]

/-! ### Writing -/

/-- Overwrite in place, or append. -/
def insert (d : Dict κ ν) (k : κ) (v : ν) : Dict κ ν :=
  if h : k ∈ d then
    ⟨d.entries.map fun p => if p.1 = k then (k, v) else p, by
      have hfst : (Prod.fst ∘ fun p : κ × ν => if p.1 = k then (k, v) else p) = Prod.fst := by
        funext p
        by_cases hp : p.1 = k <;> simp [hp]
      rw [List.map_map, hfst]
      exact d.nodup⟩
  else
    ⟨d.entries ++ [(k, v)], by
      rw [List.map_append, List.nodup_append]
      refine ⟨d.nodup, by simp, ?_⟩
      rintro a ha b hb rfl
      simp only [List.map_cons, List.map_nil, List.mem_singleton] at hb
      exact h (hb ▸ ha)⟩

def erase (d : Dict κ ν) (k : κ) : Dict κ ν :=
  ⟨d.entries.filter fun p => p.1 ≠ k, d.nodup.sublist (List.Sublist.map _ List.filter_sublist)⟩

/-- The entries whose key satisfies `p`. -/
def filterKeys (p : κ → Bool) (d : Dict κ ν) : Dict κ ν :=
  ⟨d.entries.filter fun e => p e.1, d.nodup.sublist (List.Sublist.map _ List.filter_sublist)⟩

lemma entries_insert_of_mem (h : k ∈ d) :
    (d.insert k v).entries = d.entries.map fun p => if p.1 = k then (k, v) else p := by
  simp [insert, h]

lemma entries_insert_of_not_mem (h : k ∉ d) : (d.insert k v).entries = d.entries ++ [(k, v)] := by
  simp [insert, h]

lemma get?_insert (d : Dict κ ν) (k k' : κ) (v : ν) :
    (d.insert k v).get? k' = if k' = k then some v else d.get? k' := by
  ext w
  by_cases hk : k ∈ d
  · rw [get?_eq_some_iff, entries_insert_of_mem hk]
    by_cases hkk : k' = k
    · subst hkk
      obtain ⟨v₀, hv₀⟩ := mem_iff.mp hk
      rw [get?_eq_some_iff] at hv₀
      simp only [List.mem_map, if_true, Option.some.injEq]
      constructor
      · rintro ⟨p, hp, hpe⟩
        by_cases hpk : p.1 = k'
        · rw [if_pos hpk] at hpe
          exact (Prod.mk.inj hpe).2
        · rw [if_neg hpk] at hpe
          exact absurd (congrArg Prod.fst hpe) hpk
      · rintro rfl
        exact ⟨(k', v₀), hv₀, by simp⟩
    · rw [if_neg hkk, get?_eq_some_iff]
      simp only [List.mem_map]
      constructor
      · rintro ⟨p, hp, hpe⟩
        by_cases hpk : p.1 = k
        · rw [if_pos hpk] at hpe
          exact absurd (Prod.mk.inj hpe).1.symm hkk
        · rw [if_neg hpk] at hpe
          exact hpe ▸ hp
      · intro h
        exact ⟨(k', w), h, by simp [hkk]⟩
  · rw [get?_eq_some_iff, entries_insert_of_not_mem hk]
    by_cases hkk : k' = k
    · subst hkk
      have hnot : (k', w) ∉ d.entries := fun h => hk (mem_iff.mpr ⟨w, get?_eq_some_iff.mpr h⟩)
      simp [hnot, eq_comm]
    · simp [hkk, get?_eq_some_iff]

@[simp] lemma get?_insert_self (d : Dict κ ν) (k : κ) (v : ν) : (d.insert k v).get? k = some v := by
  simp [get?_insert]

variable {k k' : κ}

lemma get?_insert_of_ne (d : Dict κ ν) (v : ν) (h : k' ≠ k) :
    (d.insert k v).get? k' = d.get? k' := by
  simp [get?_insert, h]

lemma get?_insert_insert (d : Dict κ ν) (k k' : κ) (v w : ν) :
    ((d.insert k v).insert k w).get? k' = if k' = k then some w else d.get? k' := by
  rw [get?_insert, get?_insert]
  split_ifs <;> rfl

lemma get?_erase (d : Dict κ ν) (k k' : κ) :
    (d.erase k).get? k' = if k' = k then none else d.get? k' := by
  ext w
  rw [get?_eq_some_iff]
  by_cases hkk : k' = k
  · simp [erase, hkk]
  · simp [erase, hkk, get?_eq_some_iff]

@[simp] lemma get?_erase_self (d : Dict κ ν) (k : κ) : (d.erase k).get? k = none := by
  simp [get?_erase]

lemma get?_erase_of_ne (d : Dict κ ν) (h : k' ≠ k) : (d.erase k).get? k' = d.get? k' := by
  simp [get?_erase, h]

@[simp] lemma mem_insert : k' ∈ d.insert k v ↔ k' = k ∨ k' ∈ d := by
  rw [mem_iff, mem_iff]
  by_cases h : k' = k <;> simp [get?_insert, h]

@[simp] lemma mem_erase : k' ∈ d.erase k ↔ k' ≠ k ∧ k' ∈ d := by
  rw [mem_iff, mem_iff]
  by_cases h : k' = k <;> simp [get?_erase, h]

lemma get?_filterKeys (p : κ → Bool) (d : Dict κ ν) (k : κ) :
    (d.filterKeys p).get? k = if p k then d.get? k else none := by
  ext w
  rw [get?_eq_some_iff]
  by_cases hp : p k = true
  · simp [filterKeys, hp, get?_eq_some_iff]
  · simp [filterKeys, hp]

@[simp] lemma mem_filterKeys {p : κ → Bool} : k ∈ d.filterKeys p ↔ p k = true ∧ k ∈ d := by
  rw [mem_iff, mem_iff]
  by_cases hp : p k = true <;> simp [get?_filterKeys, hp]

section

omit [DecidableEq κ]

lemma ext_entries {d d' : Dict κ ν} (h : d.entries = d'.entries) : d = d' := by
  obtain ⟨es, hes⟩ := d
  obtain ⟨es', hes'⟩ := d'
  subst h
  rfl

lemma filterKeys_congr {p q : κ → Bool} (h : ∀ k ∈ d, p k = q k) :
    d.filterKeys p = d.filterKeys q :=
  ext_entries (List.filter_congr fun e he => h e.1 (List.mem_map_of_mem he))

lemma filterKeys_eq_self {p : κ → Bool} (h : ∀ k ∈ d, p k = true) : d.filterKeys p = d :=
  ext_entries (List.filter_eq_self.mpr fun e he => h e.1 (List.mem_map_of_mem he))

lemma filterKeys_filterKeys (p q : κ → Bool) (d : Dict κ ν) :
    (d.filterKeys p).filterKeys q = d.filterKeys fun k => p k && q k := by
  apply ext_entries
  simp only [filterKeys, List.filter_filter]
  exact List.filter_congr fun e _ => Bool.and_comm _ _

end

lemma erase_eq_filterKeys (d : Dict κ ν) (k : κ) : d.erase k = d.filterKeys fun k' => k' ≠ k := rfl

lemma mem_values_insert {v w : ν} (h : w ∈ (d.insert k v).values) : w = v ∨ w ∈ d.values := by
  obtain ⟨k', hk'⟩ := mem_values.mp h
  by_cases hkk : k' = k
  · rw [get?_insert, if_pos hkk] at hk'
    exact Or.inl (Option.some.inj hk').symm
  · rw [get?_insert_of_ne _ _ hkk] at hk'
    exact Or.inr (mem_values.mpr ⟨k', hk'⟩)

/-- The second of two writes to a key is the one that stays. -/
lemma insert_insert (d : Dict κ ν) (k : κ) (v w : ν) :
    (d.insert k v).insert k w = d.insert k w := by
  apply ext_entries
  rw [entries_insert_of_mem (mem_insert.mpr (Or.inl rfl))]
  by_cases hk : k ∈ d
  · rw [entries_insert_of_mem hk, entries_insert_of_mem hk, List.map_map]
    apply List.map_congr_left
    intro p hp
    by_cases hpk : p.1 = k <;> simp [hpk]
  · rw [entries_insert_of_not_mem hk, entries_insert_of_not_mem hk, List.map_append]
    congr 1
    · conv_rhs => rw [← List.map_id d.entries]
      apply List.map_congr_left
      intro p hp
      have hpk : p.1 ≠ k := by
        rintro rfl
        exact hk (mem_of_get? (get?_eq_some_iff.mpr hp))
      simp [hpk]
    · simp

/-- Overwriting a key with its own value changes nothing. -/
lemma insert_get? (h : d.get? k = some v) : d.insert k v = d := by
  apply ext_entries
  rw [entries_insert_of_mem (mem_of_get? h)]
  conv_rhs => rw [← List.map_id d.entries]
  apply List.map_congr_left
  rintro ⟨k', v'⟩ hp
  by_cases hk : k' = k
  · subst hk
    have hv : d.get? k' = some v' := get?_eq_some_iff.mpr hp
    rw [h, Option.some.injEq] at hv
    simp [hv]
  · simp [hk]

/-- The dictionary with every value mapped. -/
def mapVal {ν' : Type*} (f : ν → ν') (d : Dict κ ν) : Dict κ ν' :=
  ⟨d.entries.map fun p => (p.1, f p.2), by
    rw [List.map_map]
    exact d.nodup⟩

section MapVal

variable {ν' : Type*} {f : ν → ν'}

omit [DecidableEq κ] in
@[simp] lemma values_mapVal (d : Dict κ ν) : (d.mapVal f).values = d.values.map f := by
  simp [mapVal, values, List.map_map, Function.comp_def]

omit [DecidableEq κ] in
@[simp] lemma mem_mapVal {d : Dict κ ν} {k : κ} : k ∈ d.mapVal f ↔ k ∈ d := by
  rw [← mem_keys, ← mem_keys]
  simp [keys, mapVal]

lemma get?_mapVal (d : Dict κ ν) (k : κ) : (d.mapVal f).get? k = (d.get? k).map f := by
  ext w
  rw [get?_eq_some_iff, Option.map_eq_some_iff]
  simp only [mapVal, List.mem_map, Prod.mk.injEq, Prod.exists, get?_eq_some_iff]
  constructor
  · rintro ⟨k', v, hp, rfl, hv⟩
    exact ⟨v, hp, hv⟩
  · rintro ⟨v, hp, hv⟩
    exact ⟨k, v, hp, rfl, hv⟩

lemma mapVal_insert (d : Dict κ ν) (k : κ) (v : ν) :
    (d.insert k v).mapVal f = (d.mapVal f).insert k (f v) := by
  apply ext_entries
  by_cases hk : k ∈ d
  · rw [entries_insert_of_mem (mem_mapVal.mpr hk)]
    simp only [mapVal, entries_insert_of_mem hk, List.map_map]
    apply List.map_congr_left
    rintro ⟨k', v'⟩ -
    by_cases h : k' = k <;> simp [h]
  · rw [entries_insert_of_not_mem (mt mem_mapVal.mp hk)]
    simp [mapVal, entries_insert_of_not_mem hk]

lemma mapVal_erase (d : Dict κ ν) (k : κ) : (d.erase k).mapVal f = (d.mapVal f).erase k := by
  apply ext_entries
  simp [mapVal, erase, List.filter_map, Function.comp_def]

end MapVal

/-- `set(d) == set(d')`. -/
def SameKeys {ν' : Type*} (d : Dict κ ν) (d' : Dict κ ν') : Prop :=
  (∀ k ∈ d.keys, k ∈ d') ∧ ∀ k ∈ d'.keys, k ∈ d

instance {ν' : Type*} (d : Dict κ ν) (d' : Dict κ ν') : Decidable (SameKeys d d') :=
  inferInstanceAs (Decidable (_ ∧ _))

omit [DecidableEq κ] in
lemma sameKeys_iff {ν' : Type*} {d' : Dict κ ν'} : SameKeys d d' ↔ ∀ k, k ∈ d ↔ k ∈ d' := by
  simp only [SameKeys, mem_keys]
  exact ⟨fun h k => ⟨h.1 k, h.2 k⟩, fun h => ⟨fun k => (h k).mp, fun k => (h k).mpr⟩⟩

/-- The dictionary comprehension `{key x: value x for x in xs}`. -/
def ofList (xs : List (κ × ν)) : Dict κ ν := xs.foldl (fun d p => d.insert p.1 p.2) empty

lemma ofList_concat (xs : List (κ × ν)) (p : κ × ν) :
    ofList (xs ++ [p]) = (ofList xs).insert p.1 p.2 := by
  simp [ofList]

variable {xs : List (κ × ν)}

lemma mem_of_get?_ofList (h : (ofList xs).get? k = some v) : (k, v) ∈ xs := by
  induction xs using List.reverseRecOn with
  | nil => cases h
  | append_singleton xs p ih =>
    rw [ofList_concat, get?_insert] at h
    by_cases hk : k = p.1
    · rw [if_pos hk, Option.some.injEq] at h
      rw [hk, ← h]
      exact List.mem_append_right _ (List.mem_singleton_self p)
    · rw [if_neg hk] at h
      exact List.mem_append_left _ (ih h)

lemma mem_ofList : k ∈ ofList xs ↔ k ∈ xs.map Prod.fst := by
  induction xs using List.reverseRecOn with
  | nil => simp [ofList]
  | append_singleton xs p ih => simp [ofList_concat, ih, or_comm]

/-- Distinct keys are kept as they stand. -/
lemma entries_ofList (h : (xs.map Prod.fst).Nodup) : (ofList xs).entries = xs := by
  induction xs using List.reverseRecOn with
  | nil => rfl
  | append_singleton xs p ih =>
    rw [List.map_append, List.nodup_append] at h
    have hp : p.1 ∉ ofList xs := by
      rw [mem_ofList]
      intro hmem
      exact h.2.2 p.1 hmem p.1 (by simp) rfl
    rw [ofList_concat, entries_insert_of_not_mem hp, ih h.1]

/-- A comprehension loses no pair exactly when its keys are distinct. -/
lemma length_entries_ofList : (ofList xs).entries.length = xs.length ↔ (xs.map Prod.fst).Nodup := by
  constructor
  · intro h
    have hsub : (ofList xs).keys ⊆ xs.map Prod.fst := fun k hk => mem_ofList.mp (mem_keys.mp hk)
    have hperm := (List.subperm_of_subset (ofList xs).nodup hsub).perm_of_length_le
      (by simp [h])
    exact hperm.nodup_iff.mp (ofList xs).nodup
  · intro h
    rw [entries_ofList h]

lemma get?_ofList (h : (xs.map Prod.fst).Nodup) : (ofList xs).get? k = some v ↔ (k, v) ∈ xs := by
  rw [get?_eq_some_iff, entries_ofList h]

end Dict

end EdaGym
