import EdaGym.Evaluation.Scoring
import EdaGym.Lib.Front
import Mathlib.Order.Basic

/-!
# Dominance as a strict order

A raw vector is valued by its objectives: one number for each declared measurement, larger is
better. One vector dominates another exactly when its valuation is strictly larger in the pointwise
order, so dominance is irreflexive and transitive whatever mixture of directions a task declares.
-/

namespace EdaGym

/-- How good a value is; measurements without a direction are all alike. -/
def MeasurementSpec.objective (specification : MeasurementSpec) (value : CanonicalDecimal) : ℚ :=
  match specification.direction with
  | .minimize => -value
  | .maximize => value
  | .target => -|value - specification.target.getD 0|
  | .none => 0

/-- The objectives of a vector, by measurement. -/
def objectives (specifications : Dict Identifier MeasurementSpec)
    (values : Dict Identifier CanonicalDecimal) (id : Identifier) : ℚ :=
  match specifications.get? id with
  | none => 0
  | some specification => specification.objective ((values.get? id).getD 0)

namespace TaskSpec

def specifications (task : TaskSpec) : Dict Identifier MeasurementSpec :=
  Dict.ofList (task.measurements.map fun m => (m.measurementId, m))

/-- The valuation that dominance compares. -/
def vector (task : TaskSpec) (measurements : List AggregatedMeasurement) : Identifier → ℚ :=
  objectives task.specifications (scoreValues measurements)

/-- The vector has a value for exactly the declared measurements. -/
def Matches (task : TaskSpec) (measurements : List AggregatedMeasurement) : Prop :=
  sortedStrings (scoreValues measurements).keys = sortedStrings task.specifications.keys

end TaskSpec

lemma compareValues_neg {left right : ℚ} : compareValues left right < 0 ↔ left < right := by
  unfold compareValues
  rcases lt_trichotomy left right with h | h | h
  · simp [h, not_lt.mpr (le_of_lt h)]
  · simp [h]
  · simp [h, not_lt.mpr (le_of_lt h)]

lemma compareValues_pos {left right : ℚ} : compareValues left right > 0 ↔ right < left := by
  unfold compareValues
  rcases lt_trichotomy left right with h | h | h
  · simp [h, not_lt.mpr (le_of_lt h)]
  · simp [h]
  · simp [h, not_lt.mpr (le_of_lt h)]

lemma objectiveComparison_eq {specification : MeasurementSpec}
    (h : specification.direction ≠ .none) (left right : CanonicalDecimal) :
    objectiveComparison specification left right =
      .ok (compareValues (specification.objective left) (specification.objective right)) := by
  have htarget := specification.target_iff
  unfold objectiveComparison MeasurementSpec.objective
  cases hdir : specification.direction with
  | none => exact absurd hdir h
  | minimize => rfl
  | maximize => rfl
  | target =>
    obtain ⟨target, ht⟩ := Option.isSome_iff_exists.mp (htarget.mp hdir)
    simp [ht]

section Compare

variable {specifications : Dict Identifier MeasurementSpec}
  {left right : Dict Identifier CanonicalDecimal}

/-- The loop answers whether no objective of the rest is worse and some objective is better, here
or in what was already compared. -/
lemma compareObjectives_eq {ids : List Identifier} {hasObjective strictlyBetter : Bool}
    (hids : ∀ id ∈ ids, id ∈ specifications ∧ id ∈ left ∧ id ∈ right)
    (hhas : strictlyBetter = true → hasObjective = true) :
    ∃ b, compareObjectives specifications left right ids hasObjective strictlyBetter = .ok b ∧
      (b = true ↔ (∀ id ∈ ids, objectives specifications right id ≤
          objectives specifications left id) ∧
        (strictlyBetter = true ∨ ∃ id ∈ ids, objectives specifications right id <
          objectives specifications left id)) := by
  induction ids generalizing hasObjective strictlyBetter with
  | nil =>
    refine ⟨_, rfl, ?_⟩
    simp only [Bool.and_eq_true, List.not_mem_nil, false_imp_iff, implies_true, true_and,
      false_and, exists_false, or_false]
    exact ⟨fun h => h.2, fun h => ⟨hhas h, h⟩⟩
  | cons id ids ih =>
    rw [List.forall_mem_cons] at hids
    obtain ⟨⟨hspec, hleft, hright⟩, hids⟩ := hids
    obtain ⟨specification, hspec⟩ := Dict.mem_iff.mp hspec
    obtain ⟨l, hl⟩ := Dict.mem_iff.mp hleft
    obtain ⟨r, hr⟩ := Dict.mem_iff.mp hright
    have hL : objectives specifications left id = specification.objective l := by
      simp [objectives, hspec, hl]
    have hR : objectives specifications right id = specification.objective r := by
      simp [objectives, hspec, hr]
    simp only [List.forall_mem_cons, List.exists_mem_cons_iff, hL, hR]
    simp only [compareObjectives, hspec, hl, hr, orRaise, ok_bind]
    by_cases hdir : specification.direction = .none
    · obtain ⟨b, hb, hiff⟩ := ih hids hhas
      have hzero : ∀ v, specification.objective v = 0 := by
        intro v
        simp [MeasurementSpec.objective, hdir]
      refine ⟨b, by rw [if_pos hdir, hb], ?_⟩
      simp [hzero, hiff]
    · rw [if_neg hdir, objectiveComparison_eq hdir, ok_bind]
      by_cases hworse : specification.objective l < specification.objective r
      · refine ⟨false, by rw [if_pos (compareValues_neg.mpr hworse)]; rfl, ?_⟩
        simp [hworse]
      · rw [if_neg fun h => hworse (compareValues_neg.mp h)]
        have hle := not_lt.mp hworse
        obtain ⟨b, hb, hiff⟩ := @ih true (strictlyBetter ||
          decide (compareValues (specification.objective l) (specification.objective r) > 0))
          hids (fun _ => rfl)
        refine ⟨b, hb, hiff.trans ?_⟩
        simp only [Bool.or_eq_true, decide_eq_true_eq, compareValues_pos, hle, true_and, or_assoc]

end Compare

section Dominates

variable {task : TaskSpec} {left right : List AggregatedMeasurement}

lemma TaskSpec.Matches.mem_iff (h : task.Matches left) {id : Identifier} :
    id ∈ scoreValues left ↔ id ∈ task.specifications := by
  rw [← Dict.mem_keys, ← Dict.mem_keys, ← mem_sortedStrings, h, mem_sortedStrings]

lemma vector_lt_iff : task.vector right < task.vector left ↔
    (∀ id ∈ sortedStrings task.specifications.keys, task.vector right id ≤ task.vector left id) ∧
      ∃ id ∈ sortedStrings task.specifications.keys,
        task.vector right id < task.vector left id := by
  have hzero : ∀ {measurements id}, id ∉ task.specifications →
      task.vector measurements id = 0 := by
    intro measurements id hid
    simp [TaskSpec.vector, objectives, Dict.get?_eq_none_iff.mpr hid]
  simp only [mem_sortedStrings, Dict.mem_keys, Pi.lt_def, Pi.le_def]
  constructor
  · rintro ⟨hle, id, hlt⟩
    refine ⟨fun id _ => hle id, id, ?_, hlt⟩
    by_contra hid
    rw [hzero hid, hzero hid] at hlt
    exact lt_irrefl _ hlt
  · rintro ⟨hle, id, -, hlt⟩
    refine ⟨?_, id, hlt⟩
    intro id'
    by_cases hid : id' ∈ task.specifications
    · exact hle id' hid
    · rw [hzero hid, hzero hid]

/-- On vectors of the task's schema dominance is the strict order of the valuations. -/
theorem paretoDominates_of_matches (hleft : task.Matches left) (hright : task.Matches right) :
    ∃ b, paretoDominates task left right = .ok b ∧
      (b = true ↔ task.vector right < task.vector left) := by
  have hids : ∀ id ∈ sortedStrings task.specifications.keys, id ∈ task.specifications ∧
      id ∈ scoreValues left ∧ id ∈ scoreValues right := by
    intro id hid
    rw [mem_sortedStrings, Dict.mem_keys] at hid
    exact ⟨hid, hleft.mem_iff.mpr hid, hright.mem_iff.mpr hid⟩
  obtain ⟨b, hb, hiff⟩ := @compareObjectives_eq task.specifications (scoreValues left)
    (scoreValues right) _ false false hids fun h => by cases h
  refine ⟨b, ?_, ?_⟩
  · simp only [paretoDominates, raiseIf_bind_eq_ok, not_or, not_not]
    exact ⟨⟨hleft, hright⟩, hb⟩
  · rw [hiff, vector_lt_iff]
    simp only [Bool.false_eq_true, false_or]
    rfl

lemma matches_of_paretoDominates {b : Bool} (h : paretoDominates task left right = .ok b) :
    task.Matches left ∧ task.Matches right := by
  simp only [paretoDominates, raiseIf_bind_eq_ok, not_or, not_not] at h
  exact h.1

end Dominates

end EdaGym
