import EdaGym.Evaluation.Snapshots

/-!
# Eligibility of stages, gates and scorers

On an accepted snapshot every eligibility function returns. The lemmas here say what it returns in
terms of the stage graph and of the results alone.
-/

namespace EdaGym

open Relation

section Eligibility

variable {task : TaskSpec} {results : List StageResult} {s : Identifier}

/-! ### Ancestors -/

/-- The worklist only collects what its stages depend on. -/
lemma ancestorLoop_sound {stages : Dict Identifier StageSpec} {P : Identifier → Prop}
    (hclosed : ∀ a stage, P a → stages.get? a = some stage → ∀ d ∈ stage.dependsOn, P d)
    {fuel : Nat} {ancestors pending : List Identifier} (hancestors : ∀ a ∈ ancestors, P a)
    (hpending : ∀ a ∈ pending, P a) : ∀ a ∈ ancestorLoop stages fuel ancestors pending, P a := by
  induction fuel generalizing ancestors pending with
  | zero => exact hancestors
  | succ fuel ih =>
    cases pending with
    | nil => exact hancestors
    | cons dependency pending =>
      rw [List.forall_mem_cons] at hpending
      rw [ancestorLoop]
      split_ifs with hknown
      · exact ih hancestors hpending.2
      · refine ih (List.forall_mem_cons.mpr ⟨hpending.1, hancestors⟩) ?_
        intro a ha
        rcases List.mem_append.mp ha with ha | ha
        · cases hget : stages.get? dependency with
          | none => simp [hget] at ha
          | some stage =>
            rw [hget] at ha
            exact hclosed dependency stage hpending.1 hget a (List.mem_reverse.mp ha)
        · exact hpending.2 a ha

/-- With enough fuel, the dependencies of what is collected are collected too. -/
lemma ancestorLoop_closed {stages : Dict Identifier StageSpec} {fuel : Nat}
    {ancestors pending : List Identifier}
    (hfuel : pending.length + unvisitedEdges stages.entries ancestors ≤ fuel)
    (hinv : ∀ a ∈ ancestors, ∀ stage, stages.get? a = some stage → ∀ d ∈ stage.dependsOn,
      d ∈ ancestors ∨ d ∈ pending) :
    ∀ a ∈ ancestorLoop stages fuel ancestors pending, ∀ stage, stages.get? a = some stage →
      ∀ d ∈ stage.dependsOn, d ∈ ancestorLoop stages fuel ancestors pending := by
  induction fuel generalizing ancestors pending with
  | zero =>
    have hnil : pending = [] := List.eq_nil_of_length_eq_zero (by omega)
    simpa [ancestorLoop, hnil] using hinv
  | succ fuel ih =>
    cases pending with
    | nil => simpa [ancestorLoop] using hinv
    | cons dependency pending =>
      rw [List.length_cons] at hfuel
      rw [ancestorLoop]
      split_ifs with hknown
      · refine ih (by omega) ?_
        intro a ha stage hstage d hd
        rcases hinv a ha stage hstage d hd with hd | hd
        · exact Or.inl hd
        · rcases List.mem_cons.mp hd with rfl | hd
          · exact Or.inl hknown
          · exact Or.inr hd
      · refine ih ?_ ?_
        · exact ancestorLoop_fuel hknown hfuel
        · intro a ha stage hstage d hd
          rcases List.mem_cons.mp ha with rfl | ha
          · refine Or.inr (List.mem_append_left _ (List.mem_reverse.mpr ?_))
            simpa [hstage] using hd
          · rcases hinv a ha stage hstage d hd with hd | hd
            · exact Or.inl (List.mem_cons_of_mem _ hd)
            · rcases List.mem_cons.mp hd with rfl | hd
              · exact Or.inl List.mem_cons_self
              · exact Or.inr (List.mem_append_right _ hd)

variable {a : Identifier}

/-- The ancestors of a stage are all that it depends on, directly or not. -/
theorem mem_ancestorIds : a ∈ ancestorIds task s ↔ TransGen task.Depends s a := by
  have hown : ∀ d, d ∈ ((task.stageIndex.get? s).map StageSpec.dependsOn).getD [] ↔
      task.Depends s d := by
    intro d
    cases hget : task.stageIndex.get? s <;> simp [TaskDocument.Depends, hget]
  have hfuel := ancestorIds_fuel task (((task.stageIndex.get? s).map StageSpec.dependsOn).getD [])
  rw [ancestorIds, mem_sortedStrings]
  constructor
  · refine ancestorLoop_sound (P := fun a => TransGen task.Depends s a) ?_ (by simp) ?_ a
    · intro b stage hb hstage d hd
      exact hb.tail ⟨stage, hstage, hd⟩
    · intro d hd
      exact .single ((hown d).mp (List.mem_reverse.mp hd))
  · intro h
    induction h with
    | single hd => exact mem_ancestorLoop hfuel (Or.inr (List.mem_reverse.mpr ((hown _).mpr hd)))
    | tail _ hd ih =>
      obtain ⟨stage, hstage, hd⟩ := hd
      exact ancestorLoop_closed hfuel (by simp) _ ih stage hstage _ hd

/-! ### Stages -/

/-- Behind a promoted stage there are only promoted ones. -/
lemma Snapshot.promoted_ancestor (h : Snapshot task results)
    (hs : HasResult results s) (ha : TransGen task.Depends s a) : Promoted results a := by
  obtain ⟨result, hr, rfl⟩ := hs
  induction ha with
  | single hd => exact h.promoted result hr _ hd
  | tail _ hd ih =>
    obtain ⟨result', hr', rfl, -⟩ := ih
    exact h.promoted result' hr' _ hd

/-- What `stageEligibility` says of a stage. -/
inductive Eligible (task : TaskSpec) (results : List StageResult) (s : Identifier) :
    StageEligibility → Prop
  | completed (hresult : HasResult results s) : Eligible task results s
      { stageId := s, state := .completed }
  | blocked (hnone : ¬ HasResult results s) (blockers : List Identifier) (hne : blockers ≠ [])
      (hblockers : ∀ a, a ∈ blockers ↔ TransGen task.Depends s a ∧ Halted results a) :
      Eligible task results s { stageId := s, state := .blocked, blockingStageIds := blockers }
  | waiting (hnone : ¬ HasResult results s)
      (hclear : ∀ a, TransGen task.Depends s a → ¬ Halted results a)
      (waiting : List Identifier)
      (hwaiting : ∃ d, task.Depends s d ∧ ¬ HasResult results d) :
      Eligible task results s { stageId := s, state := .waiting, waitingStageIds := waiting }
  | ready (hnone : ¬ HasResult results s) (hdeps : ∀ d, task.Depends s d → Promoted results d) :
      Eligible task results s { stageId := s, state := .ready }

/-- On an accepted snapshot every stage of the task has an eligibility. -/
theorem Snapshot.eligible (h : Snapshot task results) (hs : s ∈ task.stageIds) :
    ∃ eligibility, stageEligibility task results s = .ok eligibility ∧
      Eligible task results s eligibility := by
  obtain ⟨validated, hvalidated⟩ := accepted_iff_snapshot.mpr h
  have hperm := perm_of_validated hvalidated
  have hnodup : (validated.map StageResult.stageId).Nodup :=
    (hperm.map _).nodup_iff.mpr h.nodup
  obtain ⟨index, hindex⟩ : ∃ index, resultIndex validated = .ok index :=
    ⟨_, resultIndex_eq_ok.mpr ⟨hnodup, rfl⟩⟩
  have hget : ∀ {s result}, index.get? s = some result ↔ result ∈ results ∧ result.stageId = s := by
    intro s result
    rw [get?_resultIndex hindex, hperm.mem_iff]
  have hmem : ∀ s, s ∈ index ↔ HasResult results s := by
    intro s
    simp only [Dict.mem_iff, hget, HasResult]
  have hhalted : ∀ a, ((index.get? a).any fun r => !outcomePromotes r.outcome) = true ↔
      Halted results a := by
    intro a
    simp only [Option.any_eq_true, hget, Halted, Bool.not_eq_true', and_assoc]
  obtain ⟨stage, hstage, rfl⟩ := List.mem_map.mp hs
  have hindexed : task.stageIndex.get? stage.stageId = some stage :=
    get?_stageIndex.mpr ⟨hstage, rfl⟩
  have hdepends : ∀ d, task.Depends stage.stageId d ↔ d ∈ stage.dependsOn := by
    intro d
    simp [TaskDocument.Depends, hindexed]
  simp only [stageEligibility, hindexed, hvalidated, hindex, orRaise, bind_eq_ok, Except.ok.injEq,
    exists_eq_left']
  split_ifs with hdone hblocked hwaiting
  · exact ⟨_, rfl, .completed ((hmem _).mp hdone)⟩
  · refine ⟨_, rfl, .blocked (mt (hmem _).mpr hdone) _ hblocked ?_⟩
    intro a
    rw [List.mem_filter, mem_ancestorIds, hhalted]
  · refine ⟨_, rfl, .waiting (mt (hmem _).mpr hdone) ?_ _ ?_⟩
    · rw [not_not, List.filter_eq_nil_iff] at hblocked
      intro a ha
      exact mt (hhalted a).mpr (hblocked a (mem_ancestorIds.mpr ha))
    · obtain ⟨d, hd⟩ := List.exists_mem_of_ne_nil _ hwaiting
      obtain ⟨hdep, hout⟩ := List.mem_filter.mp hd
      exact ⟨d, (hdepends d).mpr hdep, mt (hmem d).mpr (of_decide_eq_true hout)⟩
  · refine ⟨_, rfl, .ready (mt (hmem _).mpr hdone) ?_⟩
    rw [not_not, List.filter_eq_nil_iff] at hblocked hwaiting
    intro d hd
    have hresult : HasResult results d := by
      simpa [hmem] using hwaiting d ((hdepends d).mp hd)
    rcases hresult.promoted_or_halted with hp | hh
    · exact hp
    · exact absurd ((hhalted d).mpr hh) (hblocked d (mem_ancestorIds.mpr (.single hd)))

/-- The stages that can be started. -/
def IsReady (task : TaskSpec) (results : List StageResult) (s : Identifier) : Prop :=
  ∃ eligibility, stageEligibility task results s = .ok eligibility ∧ eligibility.state = .ready

theorem isReady_iff : IsReady task results s ↔ Snapshot task results ∧ s ∈ task.stageIds ∧
    ¬ HasResult results s ∧ ∀ d, task.Depends s d → Promoted results d := by
  constructor
  · rintro ⟨eligibility, heligibility, hready⟩
    have hsnapshot : Snapshot task results := by
      simp only [stageEligibility, bind_eq_ok] at heligibility
      obtain ⟨-, -, validated, hvalidated, -⟩ := heligibility
      exact accepted_iff_snapshot.mp ⟨validated, hvalidated⟩
    have hknown : s ∈ task.stageIds := by
      simp only [stageEligibility, bind_eq_ok, orRaise_eq_ok] at heligibility
      obtain ⟨stage, hstage, -⟩ := heligibility
      exact mem_stageIndex.mp (Dict.mem_of_get? hstage)
    obtain ⟨eligibility', heligibility', heligible⟩ := hsnapshot.eligible hknown
    obtain rfl := Except.ok.inj (heligibility.symm.trans heligibility')
    refine ⟨hsnapshot, hknown, ?_⟩
    cases heligible with
    | ready hnone hdeps => exact ⟨hnone, hdeps⟩
    | completed => cases hready
    | blocked => cases hready
    | waiting => cases hready
  · rintro ⟨hsnapshot, hknown, hnone, hdeps⟩
    obtain ⟨eligibility, heligibility, heligible⟩ := hsnapshot.eligible hknown
    refine ⟨eligibility, heligibility, ?_⟩
    cases heligible with
    | ready => rfl
    | completed hresult => exact absurd hresult hnone
    | blocked _ blockers hne hblockers =>
      -- an ancestor that halts is a dependency or stands behind one, and these are promoted
      obtain ⟨a, ha⟩ := List.exists_mem_of_ne_nil _ hne
      obtain ⟨hancestor, hhalted⟩ := (hblockers a).mp ha
      refine absurd hhalted (hsnapshot.not_halted ?_)
      rcases TransGen.head'_iff.mp hancestor with ⟨d, hd, hrest⟩
      rcases reflTransGen_iff_eq_or_transGen.mp hrest with rfl | hrest
      · exact hdeps a hd
      · exact hsnapshot.promoted_ancestor (hdeps d hd).hasResult hrest
    | waiting _ _ _ hwaiting =>
      obtain ⟨d, hd, hout⟩ := hwaiting
      exact absurd (hdeps d hd).hasResult hout

/-! ### Gates -/

/-- Nothing that the stage depends on has halted, and the stage has no result. -/
structure Pending (task : TaskSpec) (results : List StageResult) (s : Identifier) : Prop where
  known : s ∈ task.stageIds
  no_result : ¬ HasResult results s
  clear : ∀ a, TransGen task.Depends s a → ¬ Halted results a

/-- The stage cannot run any more: something it depends on has halted. -/
def Cut (task : TaskSpec) (results : List StageResult) (s a : Identifier) : Prop :=
  ¬ HasResult results s ∧ TransGen task.Depends s a ∧ Halted results a

/-- What a scan over gates has found. -/
structure GatesScanned (task : TaskSpec) (results : List StageResult) (gates : List StageSpec)
    (scan : GateScan) : Prop where
  failed : ∀ x, x ∈ scan.failed ↔ ∃ gate ∈ gates, gate.stageId = x ∧ Halted results x
  blockers : ∀ x, x ∈ scan.blockers ↔ ∃ gate ∈ gates, Cut task results gate.stageId x
  pending : ∀ x, x ∈ scan.pending ↔ ∃ gate ∈ gates, gate.stageId = x ∧ Pending task results x

/-- A missing result makes a stage pending, or cut off by its blockers. -/
lemma Snapshot.missing (h : Snapshot task results) (hs : s ∈ task.stageIds)
    (hnone : ¬ HasResult results s) :
    ∃ eligibility, stageEligibility task results s = .ok eligibility ∧
      ((eligibility.state = .blocked ∧ ¬ Pending task results s ∧
          ∀ a, a ∈ eligibility.blockingStageIds ↔ Cut task results s a) ∨
        (eligibility.state ≠ .blocked ∧ Pending task results s ∧ ∀ a, ¬ Cut task results s a)) := by
  obtain ⟨eligibility, heligibility, heligible⟩ := h.eligible hs
  refine ⟨eligibility, heligibility, ?_⟩
  cases heligible with
  | completed hresult => exact absurd hresult hnone
  | blocked _ blockers hne hblockers =>
    left
    refine ⟨rfl, ?_, ?_⟩
    · intro hpending
      obtain ⟨a, ha⟩ := List.exists_mem_of_ne_nil _ hne
      obtain ⟨hancestor, hhalted⟩ := (hblockers a).mp ha
      exact hpending.clear a hancestor hhalted
    · intro a
      rw [hblockers, Cut]
      exact (and_iff_right hnone).symm
  | waiting _ hclear waiting hwaiting =>
    right
    refine ⟨by simp, ⟨hs, hnone, hclear⟩, ?_⟩
    rintro a ⟨-, ha, hhalted⟩
    exact hclear a ha hhalted
  | ready _ hdeps =>
    right
    have hclear : ∀ a, TransGen task.Depends s a → ¬ Halted results a := by
      intro a ha
      refine h.not_halted ?_
      rcases TransGen.head'_iff.mp ha with ⟨d, hd, hrest⟩
      rcases reflTransGen_iff_eq_or_transGen.mp hrest with rfl | hrest
      · exact hdeps a hd
      · exact h.promoted_ancestor (hdeps d hd).hasResult hrest
    refine ⟨by simp, ⟨hs, hnone, hclear⟩, ?_⟩
    rintro a ⟨-, ha, hhalted⟩
    exact hclear a ha hhalted

lemma Snapshot.scanGate (h : Snapshot task results) {index : Dict Identifier StageResult}
    (hindex : resultIndex results = .ok index) {gates : List StageSpec} {gate : StageSpec}
    {scan : GateScan} (hscan : GatesScanned task results gates scan)
    (hgate : gate.stageId ∈ task.stageIds) :
    ∃ scan', EdaGym.scanGate task results index scan gate = .ok scan' ∧
      GatesScanned task results (gates ++ [gate]) scan' := by
  have hone : ∀ P : StageSpec → Prop, (∃ g ∈ gates ++ [gate], P g) ↔
    (∃ g ∈ gates, P g) ∨ P gate := by
    intro P
    simp [or_and_right, exists_or]
  unfold EdaGym.scanGate
  cases hget : index.get? gate.stageId with
  | some result =>
    obtain ⟨hr, hid⟩ := (get?_resultIndex hindex).mp hget
    have hresult : HasResult results gate.stageId := ⟨result, hr, hid⟩
    have hblockers : ∀ x, ¬ Cut task results gate.stageId x := fun x hcut => hcut.1 hresult
    have hpending : ∀ x, ¬ (gate.stageId = x ∧ Pending task results x) := by
      rintro x ⟨rfl, hx⟩
      exact hx.no_result hresult
    refine ⟨_, rfl, ?_⟩
    cases hpromotes : outcomePromotes result.outcome with
    | true =>
      have hfailed : ∀ x, ¬ (gate.stageId = x ∧ Halted results x) := by
        rintro x ⟨rfl, hx⟩
        exact h.not_halted ⟨result, hr, hid, hpromotes⟩ hx
      refine ⟨?_, ?_, ?_⟩
      · intro x
        simp only [hone, hfailed, or_false, if_true, hscan.failed]
      · intro x
        simp only [hone, hblockers, or_false, if_true, hscan.blockers]
      · intro x
        simp only [hone, hpending, or_false, if_true, hscan.pending]
    | false =>
      have hfailed : ∀ x, (gate.stageId = x ∧ Halted results x) ↔ x = gate.stageId := by
        intro x
        constructor
        · rintro ⟨rfl, -⟩
          rfl
        · rintro rfl
          exact ⟨rfl, result, hr, hid, hpromotes⟩
      refine ⟨?_, ?_, ?_⟩
      · intro x
        simp [hfailed, hscan.failed]
      · intro x
        simp only [hone, hblockers, or_false, Bool.false_eq_true, if_false, hscan.blockers]
      · intro x
        simp only [hone, hpending, or_false, Bool.false_eq_true, if_false, hscan.pending]
  | none =>
    have hnone : ¬ HasResult results gate.stageId := by
      rintro ⟨result, hr, hid⟩
      rw [(get?_resultIndex hindex).mpr ⟨hr, hid⟩] at hget
      cases hget
    have hfailed : ∀ x, ¬ (gate.stageId = x ∧ Halted results x) := by
      rintro x ⟨rfl, hx⟩
      exact hnone hx.hasResult
    obtain ⟨eligibility, heligibility, hcases⟩ := h.missing hgate hnone
    simp only [heligibility, bind_eq_ok, Except.ok.injEq, exists_eq_left']
    rcases hcases with ⟨hstate, hpending, hblockers⟩ | ⟨hstate, hpending, hblockers⟩
    · refine ⟨_, by rw [if_pos hstate]; rfl, ?_, ?_, ?_⟩
      · intro x
        simp only [hone, hfailed, or_false, hscan.failed]
      · intro x
        rw [hone, List.mem_append, hscan.blockers, hblockers]
      · intro x
        have hx : ¬ (gate.stageId = x ∧ Pending task results x) := by
          rintro ⟨rfl, hx⟩
          exact hpending hx
        simp only [hone, hx, or_false, hscan.pending]
    · refine ⟨_, by rw [if_neg hstate]; rfl, ?_, ?_, ?_⟩
      · intro x
        simp only [hone, hfailed, or_false, hscan.failed]
      · intro x
        simp only [hone, hblockers, or_false, hscan.blockers]
      · intro x
        have hx : (gate.stageId = x ∧ Pending task results x) ↔ x = gate.stageId := by
          constructor
          · rintro ⟨rfl, -⟩
            rfl
          · rintro rfl
            exact ⟨rfl, hpending⟩
        rw [hone, List.mem_append, hscan.pending, List.mem_singleton, hx]

lemma Snapshot.scanGates (h : Snapshot task results) {index : Dict Identifier StageResult}
    (hindex : resultIndex results = .ok index) {gates : List StageSpec}
    (hgates : ∀ gate ∈ gates, gate.stageId ∈ task.stageIds) :
    ∃ scan, foldSteps (EdaGym.scanGate task results index) {} gates = .ok scan ∧
      GatesScanned task results gates scan := by
  induction gates using List.reverseRecOn with
  | nil => exact ⟨{}, rfl, by simp, by simp, by simp⟩
  | append_singleton gates gate ih =>
    obtain ⟨scan, hfold, hscan⟩ := ih fun g hg => hgates g (List.mem_append_left _ hg)
    obtain ⟨scan', hstep, hscan'⟩ := h.scanGate hindex hscan (hgates gate (by simp))
    exact ⟨scan', foldSteps_concat_eq_ok.mpr ⟨scan, hfold, hstep⟩, hscan'⟩

variable {results' : List StageResult}

lemma pending_perm (h : results.Perm results') :
    Pending task results s ↔ Pending task results' s := by
  constructor
  · intro hp
    exact ⟨hp.known, mt (hasResult_perm h).mpr hp.no_result,
      fun a ha => mt (halted_perm h).mpr (hp.clear a ha)⟩
  · intro hp
    exact ⟨hp.known, mt (hasResult_perm h).mp hp.no_result,
      fun a ha => mt (halted_perm h).mp (hp.clear a ha)⟩

lemma cut_perm (h : results.Perm results') : Cut task results s a ↔ Cut task results' s a := by
  simp only [Cut, hasResult_perm h, halted_perm h]

/-- A hard gate has halted or cannot run any more. -/
def GatesFail (task : TaskSpec) (results : List StageResult) : Prop :=
  ∃ gate ∈ hardGates task,
    Halted results gate.stageId ∨ ∃ a, Cut task results gate.stageId a

lemma gatesFail_perm (h : results.Perm results') :
    GatesFail task results ↔ GatesFail task results' := by
  simp only [GatesFail, halted_perm h, cut_perm h]

/-- What `hardGateStatus` says of a snapshot. -/
structure GateVerdict (task : TaskSpec) (results : List StageResult) (status : HardGateStatus) :
    Prop where
  failed_iff : status.state = .failed ↔ GatesFail task results
  succeeded_iff : status.state = .succeeded ↔
    ∀ gate ∈ hardGates task, Promoted results gate.stageId
  pending : status.state = .pending → ∃ gate ∈ hardGates task, Pending task results gate.stageId
  halted : ∀ id ∈ status.failedGateIds ++ status.blockingStageIds, Halted results id

lemma GateVerdict.perm {status : HardGateStatus}
    (h : GateVerdict task results status) (hperm : results.Perm results') :
    GateVerdict task results' status where
  failed_iff := by rw [h.failed_iff, gatesFail_perm hperm]
  succeeded_iff := by simp only [h.succeeded_iff, promoted_perm hperm]
  pending hstate := by
    obtain ⟨gate, hgate, hp⟩ := h.pending hstate
    exact ⟨gate, hgate, (pending_perm hperm).mp hp⟩
  halted id hid := (halted_perm hperm).mp (h.halted id hid)

/-- On an accepted snapshot the gates have a status. -/
theorem Snapshot.gates (h : Snapshot task results) :
    ∃ status, hardGateStatus task results = .ok status ∧ GateVerdict task results status := by
  obtain ⟨validated, hvalidated⟩ := accepted_iff_snapshot.mpr h
  have hperm := perm_of_validated hvalidated
  have hsnapshot := h.perm hperm.symm
  obtain ⟨index, hindex⟩ : ∃ index, resultIndex validated = .ok index :=
    ⟨_, resultIndex_eq_ok.mpr ⟨hsnapshot.nodup, rfl⟩⟩
  have hknown : ∀ gate ∈ hardGates task, gate.stageId ∈ task.stageIds := by
    intro gate hgate
    exact List.mem_map_of_mem (List.mem_filter.mp hgate).1
  obtain ⟨scan, hfold, hscan⟩ := hsnapshot.scanGates hindex hknown
  simp only [hardGateStatus, hvalidated, hindex, hfold, ok_bind]
  have hfail : (scan.failed ≠ [] ∨ scan.blockers ≠ []) ↔ GatesFail task validated := by
    constructor
    · rintro (hne | hne)
      · obtain ⟨x, hx⟩ := List.exists_mem_of_ne_nil _ hne
        obtain ⟨gate, hgate, rfl, hhalted⟩ := (hscan.failed x).mp hx
        exact ⟨gate, hgate, Or.inl hhalted⟩
      · obtain ⟨x, hx⟩ := List.exists_mem_of_ne_nil _ hne
        obtain ⟨gate, hgate, hcut⟩ := (hscan.blockers x).mp hx
        exact ⟨gate, hgate, Or.inr ⟨x, hcut⟩⟩
    · rintro ⟨gate, hgate, hhalted | ⟨a, hcut⟩⟩
      · exact Or.inl (List.ne_nil_of_mem ((hscan.failed _).mpr ⟨gate, hgate, rfl, hhalted⟩))
      · exact Or.inr (List.ne_nil_of_mem ((hscan.blockers a).mpr ⟨gate, hgate, hcut⟩))
  have hpending : scan.pending ≠ [] → ∃ gate ∈ hardGates task,
      Pending task validated gate.stageId := by
    intro hne
    obtain ⟨x, hx⟩ := List.exists_mem_of_ne_nil _ hne
    obtain ⟨gate, hgate, rfl, hp⟩ := (hscan.pending x).mp hx
    exact ⟨gate, hgate, hp⟩
  have hnot : (∀ gate ∈ hardGates task, Promoted validated gate.stageId) →
      ¬ GatesFail task validated := by
    rintro hall ⟨gate, hgate, hhalted | ⟨a, hcut⟩⟩
    · exact hsnapshot.not_halted (hall gate hgate) hhalted
    · exact hcut.1 (hall gate hgate).hasResult
  split_ifs with hfailed hwaits
  · refine ⟨_, rfl, GateVerdict.perm ?_ hperm⟩
    have hgates := hfail.mp hfailed
    refine ⟨?_, ?_, ?_, ?_⟩
    · simpa using hgates
    · exact iff_of_false (by simp) fun hall => hnot hall hgates
    · simp
    · intro id hid
      rcases List.mem_append.mp hid with hid | hid
      · obtain ⟨-, -, -, hhalted⟩ := (hscan.failed id).mp (mem_sortedStrings.mp hid)
        exact hhalted
      · obtain ⟨gate, -, hcut⟩ := (hscan.blockers id).mp (mem_normalizeIds.mp hid)
        exact hcut.2.2
  · refine ⟨_, rfl, GateVerdict.perm ?_ hperm⟩
    obtain ⟨gate, hgate, hp⟩ := hpending hwaits
    refine ⟨?_, ?_, ?_, ?_⟩
    · simpa using mt hfail.mpr hfailed
    · exact iff_of_false (by simp) fun hall => hp.no_result (hall gate hgate).hasResult
    · exact fun _ => ⟨gate, hgate, hp⟩
    · simp
  · refine ⟨_, rfl, GateVerdict.perm ?_ hperm⟩
    have hclear := mt hfail.mpr hfailed
    refine ⟨?_, ?_, ?_, ?_⟩
    · simpa using hclear
    · simp only [true_iff]
      intro gate hgate
      by_cases hresult : HasResult validated gate.stageId
      · rcases hresult.promoted_or_halted with hp | hh
        · exact hp
        · exact absurd ⟨gate, hgate, Or.inl hh⟩ hclear
      · refine absurd (List.ne_nil_of_mem ((hscan.pending _).mpr ⟨gate, hgate, rfl, ?_⟩)) hwaits
        refine ⟨hknown gate hgate, hresult, ?_⟩
        intro a ha hh
        exact hclear ⟨gate, hgate, Or.inr ⟨a, hresult, ha, hh⟩⟩
    · simp
    · simp

/-! ### Scorers -/

/-- What `scorerEligibility` says of a snapshot. -/
structure ScorerVerdict (task : TaskSpec) (results : List StageResult)
    (eligibility : ScorerEligibility) : Prop where
  waiting : eligibility.state = .waiting → ∃ s, Pending task results s
  blocked : ∀ id ∈ eligibility.blockingStageIds, Halted results id
  scored : eligibility.state = .ready ∨ eligibility.state = .notConfigured →
    ∀ gate ∈ hardGates task, Promoted results gate.stageId
  produced : eligibility.state = .ready → task.measurements ≠ [] ∧
    ∀ m ∈ task.measurements, Promoted results m.producerStageId

/-- What a scan over the missing producers has found. -/
structure ProducersScanned (task : TaskSpec) (results : List StageResult) (ids : List Identifier)
    (scan : ProducerScan) : Prop where
  blocked : ∀ x ∈ scan.blocked, Halted results x
  waiting : ∀ x ∈ scan.waiting, Pending task results x
  found : ids ≠ [] → scan.blocked ≠ [] ∨ scan.waiting ≠ []

lemma Snapshot.scanProducers (h : Snapshot task results) {ids : List Identifier}
    (hids : ∀ s ∈ ids, s ∈ task.stageIds ∧ ¬ HasResult results s) :
    ∃ scan, foldSteps (scanProducer task results) {} ids = .ok scan ∧
      ProducersScanned task results ids scan := by
  induction ids using List.reverseRecOn with
  | nil => exact ⟨{}, rfl, by simp, by simp, by simp⟩
  | append_singleton ids s ih =>
    obtain ⟨scan, hfold, hscan⟩ := ih fun s hs => hids s (List.mem_append_left _ hs)
    obtain ⟨hknown, hnone⟩ := hids s (by simp)
    obtain ⟨eligibility, heligibility, hcases⟩ := h.missing hknown hnone
    simp only [foldSteps_concat_eq_ok]
    rcases hcases with ⟨hstate, hcut, hblockers⟩ | ⟨hstate, hpending, -⟩
    · refine ⟨{ scan with blocked := scan.blocked ++ eligibility.blockingStageIds },
        ⟨scan, hfold, ?_⟩, ?_, hscan.waiting, ?_⟩
      · simp only [scanProducer, heligibility, bind_eq_ok, Except.ok.injEq, exists_eq_left',
          if_pos hstate, pure_eq_ok]
      · intro x hx
        rcases List.mem_append.mp hx with hx | hx
        · exact hscan.blocked x hx
        · exact ((hblockers x).mp hx).2.2
      · intro _
        left
        have hblocker : ∃ a, Cut task results s a := by
          by_contra hnot
          exact hcut ⟨hknown, hnone, fun a ha hh => hnot ⟨a, hnone, ha, hh⟩⟩
        obtain ⟨a, ha⟩ := hblocker
        exact List.ne_nil_of_mem (List.mem_append_right _ ((hblockers a).mpr ha))
    · refine ⟨{ scan with waiting := scan.waiting ++ [s] }, ⟨scan, hfold, ?_⟩, hscan.blocked, ?_,
        fun _ => Or.inr (by simp)⟩
      · simp only [scanProducer, heligibility, bind_eq_ok, Except.ok.injEq, exists_eq_left',
          if_neg hstate, pure_eq_ok]
      · intro x hx
        rcases List.mem_append.mp hx with hx | hx
        · exact hscan.waiting x hx
        · rw [List.mem_singleton.mp hx]
          exact hpending

lemma ScorerVerdict.perm {eligibility : ScorerEligibility}
    (h : ScorerVerdict task results eligibility) (hperm : results.Perm results') :
    ScorerVerdict task results' eligibility where
  waiting hstate := by
    obtain ⟨s, hs⟩ := h.waiting hstate
    exact ⟨s, (pending_perm hperm).mp hs⟩
  blocked id hid := (halted_perm hperm).mp (h.blocked id hid)
  scored hstate gate hgate := (promoted_perm hperm).mp (h.scored hstate gate hgate)
  produced hstate := by
    simp only [← promoted_perm hperm]
    exact h.produced hstate

/-- On an accepted snapshot the scorer has an eligibility. -/
theorem Snapshot.scorer (h : Snapshot task results) :
    ∃ eligibility, scorerEligibility task results = .ok eligibility ∧
      ScorerVerdict task results eligibility := by
  obtain ⟨validated, hvalidated⟩ := accepted_iff_snapshot.mpr h
  have hperm := perm_of_validated hvalidated
  have hsnapshot := h.perm hperm.symm
  obtain ⟨index, hindex⟩ : ∃ index, resultIndex validated = .ok index :=
    ⟨_, resultIndex_eq_ok.mpr ⟨hsnapshot.nodup, rfl⟩⟩
  obtain ⟨status, hstatus, hverdict⟩ := hsnapshot.gates
  have hmissing : ∀ s ∈ (producerStageIds task).filter (· ∉ index),
      s ∈ task.stageIds ∧ ¬ HasResult validated s := by
    intro s hs
    obtain ⟨hproducer, hout⟩ := List.mem_filter.mp hs
    obtain ⟨measurement, hmeasurement, rfl⟩ := List.mem_map.mp (List.mem_dedup.mp hproducer)
    refine ⟨task.checked.producers measurement hmeasurement, ?_⟩
    rintro ⟨result, hr, hid⟩
    exact of_decide_eq_true hout (Dict.mem_of_get? ((get?_resultIndex hindex).mpr ⟨hr, hid⟩))
  obtain ⟨scan, hfold, hscan⟩ := hsnapshot.scanProducers hmissing
  simp only [scorerEligibility, hvalidated, hindex, hstatus, hfold, ok_bind]
  have hsucceeded : ¬ status.state = .failed → ¬ status.state = .pending →
      ∀ gate ∈ hardGates task, Promoted validated gate.stageId := by
    intro hfailed hpending
    refine hverdict.succeeded_iff.mp ?_
    cases hstate : status.state with
    | succeeded => rfl
    | pending => exact absurd hstate hpending
    | failed => exact absurd hstate hfailed
  split_ifs with hfailed hpending hnone hnonpromoting hblocked hwaiting
  · refine ⟨_, rfl, ScorerVerdict.perm ?_ hperm⟩
    refine ⟨by simp, ?_, by simp, by simp⟩
    intro id hid
    exact hverdict.halted id (mem_normalizeIds.mp hid)
  · refine ⟨_, rfl, ScorerVerdict.perm ?_ hperm⟩
    refine ⟨?_, by simp, by simp, by simp⟩
    intro _
    obtain ⟨gate, -, hp⟩ := hverdict.pending hpending
    exact ⟨gate.stageId, hp⟩
  · refine ⟨_, rfl, ScorerVerdict.perm ?_ hperm⟩
    exact ⟨by simp, by simp, fun _ => hsucceeded hfailed hpending, by simp⟩
  · refine ⟨_, rfl, ScorerVerdict.perm ?_ hperm⟩
    refine ⟨by simp, ?_, by simp, by simp⟩
    intro id hid
    obtain ⟨-, hany⟩ := List.mem_filter.mp (mem_sortedStrings.mp hid)
    rw [Option.any_eq_true] at hany
    obtain ⟨result, hget, hhalts⟩ := hany
    obtain ⟨hr, hid⟩ := (get?_resultIndex hindex).mp hget
    exact ⟨result, hr, hid, by simpa using hhalts⟩
  · refine ⟨_, rfl, ScorerVerdict.perm ?_ hperm⟩
    refine ⟨by simp, ?_, by simp, by simp⟩
    intro id hid
    exact hscan.blocked id (mem_normalizeIds.mp hid)
  · refine ⟨_, rfl, ScorerVerdict.perm ?_ hperm⟩
    refine ⟨?_, by simp, by simp, by simp⟩
    intro _
    obtain ⟨s, hs⟩ := List.exists_mem_of_ne_nil _ hwaiting
    exact ⟨s, hscan.waiting s hs⟩
  · refine ⟨_, rfl, ScorerVerdict.perm ?_ hperm⟩
    refine ⟨by simp, by simp, fun _ => hsucceeded hfailed hpending, ?_⟩
    intro _
    refine ⟨hnone, ?_⟩
    intro m hm
    have hproducer : m.producerStageId ∈ producerStageIds task :=
      List.mem_dedup.mpr (List.mem_map_of_mem hm)
    have hindexed : m.producerStageId ∈ index := by
      by_contra hout
      have hids : (producerStageIds task).filter (· ∉ index) ≠ [] :=
        List.ne_nil_of_mem (List.mem_filter.mpr ⟨hproducer, by simpa using hout⟩)
      exact (hscan.found hids).elim hblocked hwaiting
    obtain ⟨result, hr, hid⟩ := (mem_resultIndex hindex).mp hindexed
    refine ⟨result, hr, hid, ?_⟩
    rw [not_not, List.filter_eq_nil_iff] at hnonpromoting
    have hhalts := hnonpromoting _ hproducer
    rw [(get?_resultIndex hindex).mpr ⟨hr, hid⟩] at hhalts
    simpa using hhalts

end Eligibility

end EdaGym
