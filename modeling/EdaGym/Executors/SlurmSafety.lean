import EdaGym.Executors.SlurmProtocol

/-!
# Slurm jobs run at most once

What the record and the jobs of one invocation can become, and that every call of every operation is
such a move.
-/

namespace EdaGym

variable {ρ : Type}

/-! ### The moves of an invocation -/

/-- What the record says of the jobs. -/
structure SlurmInvariant (s : SlurmWorld ρ) : Prop where
  jobs_le : s.jobs.length ≤ 1
  unrecorded : (∀ r, s.file ≠ .record r) → s.jobs = []
  held : (s.file = .record .prepared ∨ ∃ id c, s.file = .record (.accepted id c)) →
    ∀ j ∈ s.jobs, j.released = false
  accepted : ∀ id c, s.file = .record (.accepted id c) →
    ∃ j, s.jobs = [j] ∧ j.schedulerJobId = id
  submitted : ∀ id c t u r, s.file = .record (.submitted id c t u r) →
    ∃ j, s.jobs = [j] ∧ j.schedulerJobId = id ∧ j.submitTime = t ∧ j.userId = u
  abandoned : s.file = .record .abandoned → ∀ j ∈ s.jobs, j.Terminal

/-- A release of a job that a submitted record names, or that has ended. -/
def SlurmWorld.Releases (s : SlurmWorld ρ) (id : String) : Prop :=
  (∃ c t u r, s.file = .record (.submitted id c t u r)) ∨ s.file = .record .abandoned

/-- What is done without the lock. -/
inductive SlurmFree (s : SlurmWorld ρ) : SlurmWorld ρ → Prop
  | same : SlurmFree s s
  | goesOn {s' : SlurmWorld ρ} (h : s.SchedulerGoesOn s') : SlurmFree s s'
  | release (id : String) (h : s.Releases id) : SlurmFree s (s.releaseJob id)

/-- What is done under the lock. -/
inductive SlurmLocked (s : SlurmWorld ρ) : SlurmWorld ρ → Prop
  | free {s' : SlurmWorld ρ} (h : SlurmFree s s') : SlurmLocked s s'
  | directory {s' : SlurmWorld ρ} (hfile : s'.file = s.file) (hjobs : s'.jobs = s.jobs) :
      SlurmLocked s s'
  | create (file : SlurmRecordFile ρ) (hfile : s.file = .absent)
      (hcreated : file = .torn ∨ file = .record .prepared) : SlurmLocked s { s with file }
  | submit (job : SlurmJob) (hfile : s.file = .record .prepared) (hjobs : s.jobs = [])
      (hheld : job.released = false) : SlurmLocked s { s with jobs := [job] }
  | accept (job : SlurmJob) (c : Option String) (hfile : s.file = .record .prepared)
      (hjobs : s.jobs = [job]) :
      SlurmLocked s { s with file := .record (.accepted job.schedulerJobId c) }
  | bind (job : SlurmJob) (id : String) (c : Option String)
      (hfile : s.file = .record (.accepted id c)) (hjobs : s.jobs = [job]) :
      SlurmLocked s { s with file := .record (.submitted id c job.submitTime job.userId none) }
  | collect (id : String) (c : Option String) (t : String) (u : Nat) (r : ρ)
      (hfile : s.file = .record (.submitted id c t u none)) :
      SlurmLocked s { s with file := .record (.submitted id c t u (some r)) }
  | abandon (r : SlurmJobRecord ρ) (hfile : s.file = .record r)
      (hjobs : ∀ j ∈ s.jobs, j.Terminal) : SlurmLocked s { s with file := .record .abandoned }

lemma SlurmJob.release_eq (id : String) (j : SlurmJob) :
    (j.release id).toActiveSlurmJob = j.toActiveSlurmJob := by
  rw [SlurmJob.release]
  split_ifs <;> rfl

namespace SlurmWorld

variable {s s' : SlurmWorld ρ}

lemma SchedulerGoesOn.file (h : s.SchedulerGoesOn s') : s'.file = s.file := by
  obtain ⟨jobs, -, rfl⟩ := h
  rfl

lemma SchedulerGoesOn.jobs_nil (h : s.SchedulerGoesOn s') (hjobs : s.jobs = []) : s'.jobs = [] := by
  obtain ⟨jobs, hbecomes, rfl⟩ := h
  rw [hjobs] at hbecomes
  exact List.forall₂_nil_left_iff.mp hbecomes

lemma SchedulerGoesOn.jobs_singleton {j : SlurmJob} (h : s.SchedulerGoesOn s')
    (hjobs : s.jobs = [j]) : ∃ j', s'.jobs = [j'] ∧ j.Becomes j' := by
  obtain ⟨jobs, hbecomes, rfl⟩ := h
  rw [hjobs] at hbecomes
  obtain ⟨j', rest, hj', hrest, rfl⟩ := List.forall₂_cons_left_iff.mp hbecomes
  rw [List.forall₂_nil_left_iff.mp hrest]
  exact ⟨j', rfl, hj'⟩

/-- No job, or one. -/
lemma jobs_cases (h : s.jobs.length ≤ 1) : s.jobs = [] ∨ ∃ j, s.jobs = [j] := by
  match hjobs : s.jobs with
  | [] => exact Or.inl rfl
  | [j] => exact Or.inr ⟨j, rfl⟩
  | j :: j' :: js =>
    rw [hjobs] at h
    simp at h

end SlurmWorld

/-- A change of the jobs that keeps their identities, that ends none that goes on and releases
none but under a submitted record. -/
lemma SlurmInvariant.of_jobs {s : SlurmWorld ρ} {jobs : List SlurmJob} (h : SlurmInvariant s)
    (hnil : s.jobs = [] → jobs = [])
    (hone : ∀ j, s.jobs = [j] → ∃ j', jobs = [j'] ∧ j'.schedulerJobId = j.schedulerJobId ∧
      j'.submitTime = j.submitTime ∧ j'.userId = j.userId ∧ (j.Terminal → j'.Terminal) ∧
      ((∃ id c t u r, s.file = .record (.submitted id c t u r)) ∨ s.file = .record .abandoned ∨
        j'.released = j.released)) :
    SlurmInvariant { s with jobs } := by
  rcases SlurmWorld.jobs_cases h.jobs_le with hjobs | ⟨j, hjobs⟩
  · rw [hnil hjobs, ← hjobs]
    exact h
  · obtain ⟨j', rfl, hid, htime, huid, hterminal, hreleased⟩ := hone j hjobs
    refine ⟨Nat.le_refl 1, fun hnone => ?_, fun hphase => ?_, fun id c hfile => ?_,
      fun id c t u r hfile => ?_, fun hfile => ?_⟩
    · rw [h.unrecorded hnone] at hjobs
      cases hjobs
    · simp only [List.mem_singleton, forall_eq]
      have hheld := h.held hphase j (by simp [hjobs])
      rcases hreleased with ⟨id, c, t, u, r, hfile⟩ | hfile | hreleased
      · rcases hphase with hphase | ⟨id', c', hphase⟩ <;> cases hphase.symm.trans hfile
      · rcases hphase with hphase | ⟨id', c', hphase⟩ <;> cases hphase.symm.trans hfile
      · rw [hreleased]
        exact hheld
    · obtain ⟨k, hk, hkid⟩ := h.accepted id c hfile
      rw [hjobs, List.cons.injEq] at hk
      exact ⟨j', rfl, by rw [hid, hk.1, hkid]⟩
    · obtain ⟨k, hk, hkid, hktime, hkuid⟩ := h.submitted id c t u r hfile
      rw [hjobs, List.cons.injEq] at hk
      exact ⟨j', rfl, by rw [hid, hk.1, hkid], by rw [htime, hk.1, hktime],
        by rw [huid, hk.1, hkuid]⟩
    · simp only [List.mem_singleton, forall_eq]
      exact hterminal (h.abandoned hfile j (by simp [hjobs]))

variable {s s' : SlurmWorld ρ}

lemma SlurmInvariant.free (h : SlurmInvariant s) (hmove : SlurmFree s s') : SlurmInvariant s' := by
  cases hmove with
  | same => exact h
  | goesOn hgoes =>
    have hgoes' := hgoes
    obtain ⟨jobs, hbecomes, rfl⟩ := hgoes'
    refine h.of_jobs hgoes.jobs_nil fun j hj => ?_
    obtain ⟨j', hj', hid, htime, huid, hreleased, hterminal, -⟩ := hgoes.jobs_singleton hj
    exact ⟨j', hj', hid, htime, huid, hterminal, Or.inr (Or.inr hreleased)⟩
  | release id hreleases =>
    refine h.of_jobs (fun hnil => by simp [hnil]) fun j hj => ?_
    have heq := j.release_eq id
    refine ⟨j.release id, by simp [hj], by rw [heq], by rw [heq], by rw [heq],
      fun hterminal => ?_, ?_⟩
    · rw [ActiveSlurmJob.Terminal, heq]
      exact hterminal
    · rcases hreleases with ⟨c, t, u, r, hfile⟩ | hfile
      · exact Or.inl ⟨id, c, t, u, r, hfile⟩
      · exact Or.inr (Or.inl hfile)

lemma SlurmInvariant.jobs_eq {s : SlurmWorld ρ} (h : SlurmInvariant s) {j : SlurmJob}
    (hj : j ∈ s.jobs) : s.jobs = [j] := by
  rcases SlurmWorld.jobs_cases h.jobs_le with hnil | ⟨k, hk⟩
  · rw [hnil] at hj
    cases hj
  · rw [hk, List.mem_singleton] at hj
    rw [hk, hj]

lemma SlurmInvariant.congr (h : SlurmInvariant s) (hfile : s'.file = s.file)
    (hjobs : s'.jobs = s.jobs) : SlurmInvariant s' := by
  obtain ⟨hle, hunrecorded, hheld, haccepted, hsubmitted, habandoned⟩ := h
  rw [← hfile, ← hjobs] at *
  exact ⟨hle, hunrecorded, hheld, haccepted, hsubmitted, habandoned⟩

lemma SlurmInvariant.locked (h : SlurmInvariant s)
    (hmove : SlurmLocked s s') : SlurmInvariant s' := by
  cases hmove with
  | free hmove => exact h.free hmove
  | directory hfile hjobs => exact h.congr hfile hjobs
  | create file hfile hcreated =>
    have hjobs := h.unrecorded fun r hr => by rw [hfile] at hr; cases hr
    rcases hcreated with rfl | rfl <;> constructor <;> simp [hjobs]
  | submit job hfile hjobs hheld => constructor <;> simp [hfile, hheld]
  | accept job c hfile hjobs =>
    have hheld := h.held (Or.inl hfile)
    rw [hjobs] at hheld
    constructor <;> simp [hjobs, hheld]
  | bind job id c hfile hjobs =>
    obtain ⟨j, hj, hid⟩ := h.accepted id c hfile
    rw [hjobs, List.cons.injEq] at hj
    obtain ⟨rfl, -⟩ := hj
    constructor <;> simp +contextual [hjobs, hid]
  | collect id c t u r hfile =>
    obtain ⟨j, hj, hid, ht, hu⟩ := h.submitted id c t u none hfile
    constructor <;> simp +contextual [hj, hid, ht, hu]
  | abandon r hfile hterminal =>
    constructor <;> simp [h.jobs_le]
    exact hterminal

def slurmMoves (ρ : Type) : (slurmSetting ρ).Moves where
  inv := SlurmInvariant
  locked := SlurmLocked
  free := SlurmFree
  inv_locked _ _ h hmove := h.locked hmove
  inv_free _ _ h hmove := h.free hmove
  inv_env _ _ h hmove := h.free (.goesOn hmove)

/-! ### What the moves keep -/

lemma SlurmFree.file (h : SlurmFree s s') : s'.file = s.file := by
  cases h with
  | same => rfl
  | goesOn h => exact h.file
  | release id h => rfl

lemma SlurmFree.jobs_nil (h : SlurmFree s s') (hjobs : s.jobs = []) : s'.jobs = [] := by
  cases h with
  | same => exact hjobs
  | goesOn h => exact h.jobs_nil hjobs
  | release id h => simp [SlurmWorld.releaseJob, hjobs]

/-- A job after a move is a job before it, which had not ended if it has not ended now. -/
lemma SlurmFree.mem_jobs (h : SlurmFree s s') {j' : SlurmJob}
    (hj' : j' ∈ s'.jobs) : ∃ j ∈ s.jobs, j'.schedulerJobId = j.schedulerJobId ∧
      (j.Terminal → j'.Terminal) := by
  cases h with
  | same => exact ⟨j', hj', rfl, id⟩
  | goesOn h =>
    obtain ⟨jobs, hbecomes, rfl⟩ := h
    obtain ⟨i, hi, rfl⟩ := List.mem_iff_getElem.mp hj'
    have hi' : i < s.jobs.length := hbecomes.length_eq ▸ hi
    have hbecomes := hbecomes.get hi' hi
    exact ⟨_, List.getElem_mem hi', hbecomes.schedulerJobId, hbecomes.terminal⟩
  | release id h =>
    obtain ⟨j, hj, rfl⟩ := List.mem_map.mp hj'
    have heq := j.release_eq id
    exact ⟨j, hj, by rw [heq], fun hterminal => by rwa [ActiveSlurmJob.Terminal, heq]⟩

/-- A job before a move is still there, under its identity. -/
lemma SlurmFree.jobs_mem (h : SlurmFree s s') {j : SlurmJob}
    (hj : j ∈ s.jobs) : ∃ j' ∈ s'.jobs, j'.schedulerJobId = j.schedulerJobId ∧
      j'.submitTime = j.submitTime ∧ j'.userId = j.userId := by
  cases h with
  | same => exact ⟨j, hj, rfl, rfl, rfl⟩
  | goesOn h =>
    obtain ⟨jobs, hbecomes, rfl⟩ := h
    obtain ⟨i, hi, rfl⟩ := List.mem_iff_getElem.mp hj
    have hi' : i < jobs.length := hbecomes.length_eq ▸ hi
    have hbecomes := hbecomes.get hi hi'
    exact ⟨_, List.getElem_mem hi', hbecomes.schedulerJobId, hbecomes.submitTime, hbecomes.userId⟩
  | release id h =>
    have heq := j.release_eq id
    exact ⟨j.release id, List.mem_map_of_mem hj, by rw [heq], by rw [heq], by rw [heq]⟩

lemma slurmMoves_beside (h : (slurmMoves ρ).Beside s s') : SlurmFree s s' := by
  rcases h with h | h
  · exact h
  · exact .goesOn h

lemma slurmMoves_around (h : (slurmMoves ρ).Around s s') : SlurmLocked s s' := by
  rcases h with h | h | h
  · exact h
  · exact .free h
  · exact .free (.goesOn h)

/-- Once a job may be released it stays so. -/
lemma SlurmLocked.releases (h : SlurmLocked s s') {id : String}
    (hreleases : s.Releases id) : s'.Releases id := by
  rcases hreleases with ⟨c, t, u, r, hfile⟩ | hfile
  · cases h with
    | free h => exact Or.inl ⟨c, t, u, r, h.file.trans hfile⟩
    | directory h => exact Or.inl ⟨c, t, u, r, h.trans hfile⟩
    | submit job h => exact Or.inl ⟨c, t, u, r, hfile⟩
    | abandon => exact Or.inr rfl
    | create file h => cases h.symm.trans hfile
    | accept job c h => cases h.symm.trans hfile
    | bind job id c h => cases h.symm.trans hfile
    | collect id' c' t' u' r' h =>
      cases h.symm.trans hfile
      exact Or.inl ⟨c, t, u, some r', rfl⟩
  · cases h with
    | free h => exact Or.inr (h.file.trans hfile)
    | directory h => exact Or.inr (h.trans hfile)
    | submit job h => exact Or.inr hfile
    | abandon => exact Or.inr rfl
    | create file h => cases h.symm.trans hfile
    | accept job c h => cases h.symm.trans hfile
    | bind job id c h => cases h.symm.trans hfile
    | collect id' c' t' u' r' h => cases h.symm.trans hfile

end EdaGym
