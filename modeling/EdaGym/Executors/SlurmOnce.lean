import EdaGym.Executors.SlurmRuns

/-!
# Slurm jobs run at most once

What holds in all runs of the executors on one state root: there is one job at most, it is released
under the record that names it, the record only advances, and an abandoned invocation has no job
that goes on.
-/

namespace EdaGym

open Setting Setting.Moves

variable {ρ : Type}

abbrev SlurmMachine (ρ : Type) := Machine (SlurmWorld ρ) (SlurmCall ρ) SlurmCall.Answer

/-! ### Moves -/

/-- What a step may make of the record. -/
inductive SlurmRecordFile.Advances : SlurmRecordFile ρ → SlurmRecordFile ρ → Prop
  | same (f : SlurmRecordFile ρ) : Advances f f
  | create (f : SlurmRecordFile ρ) (h : f = .torn ∨ f = .record .prepared) : Advances .absent f
  | accept (id : String) (c : Option String) :
      Advances (.record .prepared) (.record (.accepted id c))
  | bind (id : String) (c : Option String) (t : String) (u : ℕ) :
      Advances (.record (.accepted id c)) (.record (.submitted id c t u none))
  | collect (id : String) (c : Option String) (t : String) (u : ℕ) (r : ρ) :
      Advances (.record (.submitted id c t u none)) (.record (.submitted id c t u (some r)))
  | abandon (r : SlurmJobRecord ρ) : Advances (.record r) (.record .abandoned)

variable {s s' : SlurmWorld ρ}

lemma SlurmLocked.advances (h : SlurmLocked s s') : s.file.Advances s'.file := by
  cases h with
  | free h =>
    rw [h.file]
    exact .same s.file
  | directory hfile =>
    rw [hfile]
    exact .same s.file
  | create file hfile hcreated =>
    rw [hfile]
    exact .create file hcreated
  | submit => exact .same s.file
  | accept job c hfile =>
    rw [hfile]
    exact .accept job.schedulerJobId c
  | bind job id c hfile =>
    rw [hfile]
    exact .bind id c job.submitTime job.userId
  | collect id c t u r hfile =>
    rw [hfile]
    exact .collect id c t u r
  | abandon r hfile =>
    rw [hfile]
    exact .abandon r

/-- A job that is released was released before, or the record names it. -/
def SlurmWorld.ReleasedBy (s : SlurmWorld ρ) (j' : SlurmJob) : Prop :=
  (∃ j ∈ s.jobs, j.schedulerJobId = j'.schedulerJobId ∧ j.released = true) ∨
    ∃ c r, s.file =
      .record (.submitted j'.schedulerJobId c j'.submitTime j'.userId r)

lemma SlurmFree.released (h : SlurmFree s s') (hs : SlurmInvariant s)
    {j' : SlurmJob} (hj' : j' ∈ s'.jobs) (hreleased : j'.released = true) : s.ReleasedBy j' := by
  cases h with
  | same => exact Or.inl ⟨j', hj', rfl, hreleased⟩
  | goesOn h =>
    obtain ⟨jobs, hbecomes, rfl⟩ := h
    obtain ⟨i, hi, rfl⟩ := List.mem_iff_getElem.mp hj'
    have hi' : i < s.jobs.length := hbecomes.length_eq ▸ hi
    have hbecomes := hbecomes.get hi' hi
    exact Or.inl ⟨_, List.getElem_mem hi', hbecomes.schedulerJobId.symm,
      hbecomes.released.symm.trans hreleased⟩
  | release id h =>
    obtain ⟨j, hj, rfl⟩ := List.mem_map.mp hj'
    have heq := j.release_eq id
    rcases h with ⟨c, t, u, r, hfile⟩ | hfile
    · obtain ⟨k, hk, hid, htime, huid⟩ := hs.submitted id c t u r hfile
      rw [hk, List.mem_singleton] at hj
      subst hj
      refine Or.inr ⟨c, r, ?_⟩
      rw [heq, hid, htime, huid]
      exact hfile
    · have hterminal := hs.abandoned hfile j hj
      have hsame : j.release id = j := by
        rw [SlurmJob.release, if_neg]
        exact fun hlive => hlive.2 hterminal
      rw [hsame] at hreleased ⊢
      exact Or.inl ⟨j, hj, rfl, hreleased⟩

lemma SlurmLocked.released (h : SlurmLocked s s') (hs : SlurmInvariant s)
    {j' : SlurmJob} (hj' : j' ∈ s'.jobs) (hreleased : j'.released = true) : s.ReleasedBy j' := by
  cases h with
  | free h => exact h.released hs hj' hreleased
  | submit job hfile hjobs hheld =>
    rw [List.mem_singleton.mp hj', hheld] at hreleased
    cases hreleased
  | directory hfile hjobs => exact Or.inl ⟨j', hjobs ▸ hj', rfl, hreleased⟩
  | create => exact Or.inl ⟨j', hj', rfl, hreleased⟩
  | accept => exact Or.inl ⟨j', hj', rfl, hreleased⟩
  | bind => exact Or.inl ⟨j', hj', rfl, hreleased⟩
  | collect => exact Or.inl ⟨j', hj', rfl, hreleased⟩
  | abandon => exact Or.inl ⟨j', hj', rfl, hreleased⟩

/-! ### Runs -/

/-- The executors when there is nothing yet. -/
def SlurmMachine.start (ρ : Type) : SlurmMachine ρ := { world := {} }

lemma SlurmMachine.start_good : (slurmMoves ρ).Good (SlurmMachine.start ρ) where
  inv := by
    constructor <;> simp [SlurmMachine.start]
  holder p hp := nomatch hp
  others p hp := nomatch hp

lemma slurm_changes (h : (slurmMoves ρ).Changes s s') : SlurmLocked s s' := by
  rcases h with rfl | h
  · exact .free .same
  · exact slurmMoves_around h

lemma slurm_reaches_keeps {P : SlurmRecordFile ρ → Prop}
    (hP : ∀ f f', f.Advances f' → P f → P f') {m m' : SlurmMachine ρ}
    (hgood : (slurmMoves ρ).Good m) (hrun : (slurmSetting ρ).Reaches m m') (hp : P m.world.file) :
    P m'.world.file :=
  hgood.reaches_keeps (K := fun s => P s.file) slurmMoves_checked
    (fun _ _ _ hmove => hP _ _ (slurm_changes hmove).advances) hrun hp

/-- What can be relied on in a machine. -/
structure SlurmMachine.RunsAtMostOnce (m : SlurmMachine ρ) : Prop where
  submitted_once : m.world.jobs.length ≤ 1
  released : ∀ m', (slurmSetting ρ).Step m m' → ∀ j' ∈ m'.world.jobs, j'.released = true →
    m.world.ReleasedBy j'
  advances : ∀ m', (slurmSetting ρ).Step m m' → m.world.file.Advances m'.world.file
  abandoned : m.world.file = .record .abandoned → ∀ m', (slurmSetting ρ).Reaches m m' →
    m'.world.file = .record .abandoned
  result : ∀ id c t u r, m.world.file = .record (.submitted id c t u (some r)) →
    ∀ m', (slurmSetting ρ).Reaches m m' →
      m'.world.file = m.world.file ∨ m'.world.file = .record .abandoned
  /-- When `abandon` returns and there is a record, no job goes on, then or later. -/
  quiet : ∀ invokingUid polls, m.holder = some (SlurmProgram.abandon invokingUid polls) →
    ∀ m', Relation.ReflTransGen (slurmSetting ρ).Keeps m m' → m'.holder = some (.ret ()) →
      ∀ r, m'.world.file = .record r → ∀ m'', (slurmSetting ρ).Reaches m' m'' →
        m''.world.AllTerminal

/-- In whatever order the executors launch, inspect, cancel, collect and abandon, and wherever they
stop. -/
theorem slurm_runs_at_most_once {m : SlurmMachine ρ}
    (hrun : (slurmSetting ρ).Reaches (SlurmMachine.start ρ) m) : m.RunsAtMostOnce := by
  have hgood := (SlurmMachine.start_good.reaches slurmMoves_checked hrun).1
  have hmove {m' : SlurmMachine ρ} (hstep : (slurmSetting ρ).Step m m') :
      SlurmLocked m.world m'.world := slurm_changes (hgood.step slurmMoves_checked hstep).2
  have habandoned {m m' : SlurmMachine ρ} (hgood : (slurmMoves ρ).Good m)
      (hfile : m.world.file = .record .abandoned) (hrun : (slurmSetting ρ).Reaches m m') :
      m'.world.file = .record .abandoned := by
    refine slurm_reaches_keeps (P := fun f => f = .record .abandoned) ?_ hgood hrun hfile
    rintro f f' hadvances rfl
    cases hadvances <;> rfl
  refine ⟨hgood.inv.jobs_le, fun m' hstep j' hj' => (hmove hstep).released hgood.inv hj',
    fun m' hstep => (hmove hstep).advances, fun hfile m' => habandoned hgood hfile,
    fun id c t u r hfile m' hrun => ?_, fun invokingUid polls hholder m' hkeeps hreturns r hfile
      m'' hrun => ?_⟩
  · rw [hfile]
    refine slurm_reaches_keeps (P := fun f => f = .record (.submitted id c t u (some r)) ∨
      f = .record .abandoned) ?_ hgood hrun (Or.inl hfile)
    rintro f f' hadvances (rfl | rfl)
    · cases hadvances with
      | same => exact Or.inl rfl
      | abandon => exact Or.inr rfl
    · cases hadvances <;> exact Or.inr rfl
  · have hholds : (slurmMoves ρ).Holds (fun s => ∀ r, s.file = .record r → r = .abandoned) m :=
      ⟨_, hholder, _, stable_true, trivial, abandon_runs invokingUid polls⟩
    have hr := hholds.returns hgood slurmMoves_checked hkeeps hreturns r hfile
    rw [hr] at hfile
    have hrun' : (slurmSetting ρ).Reaches m m' :=
      hkeeps.lift id fun _ _ h => h.1
    have hgood' := (hgood.reaches slurmMoves_checked hrun').1
    exact (hgood'.reaches slurmMoves_checked hrun).1.inv.abandoned (habandoned hgood' hfile hrun)

/-- A call that succeeds. -/
lemma SlurmAct.step {a : SlurmAct ρ} {k : Bool → SlurmProgram ρ Unit}
    (h : a.exec s true s') :
    (slurmSetting ρ).Step ⟨s, some (.call (.act a) k), []⟩ ⟨s', some (k true), []⟩ :=
  .call [] (i := SlurmCall.act a) h

/-- A launch that has submitted a job and not yet recorded it. -/
theorem slurm_runs_at_most_once_submitted : ∃ m : SlurmMachine Unit,
    (slurmSetting Unit).Reaches (SlurmMachine.start Unit) m ∧
      m.world.jobs.length = 1 ∧ m.RunsAtMostOnce := by
  have hrun : ∃ p, (slurmSetting Unit).Reaches (SlurmMachine.start Unit)
      ⟨{ directory := true, control := true, launchFiles := true, file := .record .prepared,
         jobs := [{ schedulerJobId := "42", submitTime := "2026-01-01T00:00:00", userId := 1000,
                    state := "PENDING", reason := "JobHeldUser", restarts := 0 }] },
        some p, []⟩ := by
    apply Exists.intro
    refine .head (.acquire _ _ (Or.inl rfl)) ?_
    refine .head (SlurmAct.step rfl) ?_
    refine .head (.call [] (show SlurmCall.exec .exists _ false _ from ⟨rfl, by simp⟩)) ?_
    refine .head (SlurmAct.step rfl) ?_
    refine .head (SlurmAct.step ⟨rfl, rfl⟩) ?_
    refine .head (SlurmAct.step rfl) ?_
    refine .head (SlurmAct.step ⟨rfl, rfl⟩) ?_
    refine .head (SlurmAct.step (Or.inr rfl)) ?_
    refine .head (SlurmAct.step rfl) ?_
    refine .head (.call [] (show SlurmCall.exec .sbatch _ (some ("42", none)) _ from
      Or.inr ⟨_, rfl, by decide, rfl, Or.inr ⟨none, rfl⟩⟩)) .refl
  obtain ⟨p, hrun⟩ := hrun
  exact ⟨_, hrun, rfl, slurm_runs_at_most_once hrun⟩

end EdaGym
