import EdaGym.Executors.SlurmSafety

/-!
# What the operations of the Slurm executor do

Each operation is shown to move the record and the jobs of its invocation as it should, against all
that can happen beside it.
-/

namespace EdaGym

open Setting Setting.Moves Program

variable {ρ : Type} {G R : SlurmWorld ρ → SlurmWorld ρ → Prop} {lingers : Bool}
  {P : SlurmWorld ρ → Prop}

/-! ### What is known of the jobs -/

/-- The jobs of the invocation that have not ended, among those with the given ids, are among those
that were found, and were not seen to have ended; what was found is the invocation's. -/
structure SlurmWorld.Found (ids : List String) (found : List ActiveSlurmJob)
    (s : SlurmWorld ρ) : Prop where
  complete : ∀ j ∈ s.jobs, ¬ j.Terminal → j.schedulerJobId ∈ ids →
    ∃ job ∈ found, ¬ job.Terminal
  sound : ∀ job ∈ found, ∃ j ∈ s.jobs, j.schedulerJobId = job.schedulerJobId ∧
    j.submitTime = job.submitTime ∧ j.userId = job.userId

/-- Nothing else is done under the lock. -/
def Alone (R : SlurmWorld ρ → SlurmWorld ρ → Prop) : Prop := ∀ s s', R s s' → SlurmFree s s'

variable {s s' : SlurmWorld ρ} {ids : List String}

lemma SlurmFree.lists (h : SlurmFree s s') (hlists : s.Lists ids) : s'.Lists ids := by
  intro j' hj' hlive
  obtain ⟨j, hj, hid, hterminal⟩ := h.mem_jobs hj'
  rw [hid]
  exact hlists j hj fun hended => hlive (hterminal hended)

lemma SlurmFree.found (h : SlurmFree s s')
    {found : List ActiveSlurmJob} (hfound : s.Found ids found) : s'.Found ids found := by
  refine ⟨fun j' hj' hlive hmem => ?_, fun job hjob => ?_⟩
  · obtain ⟨j, hj, hid, hterminal⟩ := h.mem_jobs hj'
    exact hfound.complete j hj (fun hended => hlive (hterminal hended)) (hid ▸ hmem)
  · obtain ⟨j, hj, hid, htime, huid⟩ := hfound.sound job hjob
    obtain ⟨j', hj', hid', htime', huid'⟩ := h.jobs_mem hj
    exact ⟨j', hj', hid'.trans hid, htime'.trans htime, huid'.trans huid⟩

variable {s : SlurmWorld ρ} {id : String}

/-- The job that was shown, or that there is none. -/
lemma SlurmWorld.Shows.found (hs : SlurmInvariant s)
    {shown : Option ActiveSlurmJob} (h : s.Shows id shown) : s.Found [id] shown.toList := by
  cases shown with
  | none =>
    exact ⟨fun j hj _ hmem => absurd (List.mem_singleton.mp hmem) (h j hj),
      fun job hjob => (nomatch hjob)⟩
  | some shown =>
    obtain ⟨hid, j, hj, rfl⟩ := h
    refine ⟨fun j' hj' hlive _ => ⟨_, List.mem_singleton_self _, ?_⟩, fun job hjob => ?_⟩
    · rw [hs.jobs_eq hj, List.mem_singleton] at hj'
      rwa [← hj']
    · rw [List.mem_singleton.mp hjob]
      exact ⟨j, hj, rfl, rfl, rfl⟩

lemma SlurmWorld.Found.nil : s.Found [] [] :=
  ⟨fun _ _ _ hmem => (nomatch hmem), fun _ hjob => (nomatch hjob)⟩

lemma SlurmWorld.Found.append
    {found rest : List ActiveSlurmJob} (h : s.Found [id] found) (hrest : s.Found ids rest) :
    s.Found (id :: ids) (found ++ rest) := by
  refine ⟨fun j hj hlive hmem => ?_, fun job hjob => ?_⟩
  · rcases List.mem_cons.mp hmem with heq | hmem
    · obtain ⟨job, hjob, hjlive⟩ := h.complete j hj hlive (List.mem_singleton.mpr heq)
      exact ⟨job, List.mem_append_left _ hjob, hjlive⟩
    · obtain ⟨job, hjob, hjlive⟩ := hrest.complete j hj hlive hmem
      exact ⟨job, List.mem_append_right _ hjob, hjlive⟩
  · rcases List.mem_append.mp hjob with hjob | hjob
    · exact h.sound job hjob
    · exact hrest.sound job hjob

lemma Alone.stable (h : ∀ s s' : SlurmWorld ρ, SlurmFree s s' → P s → P s') :
    (slurmMoves ρ).Stable R fun s => Alone R → P s :=
  fun s s' _ hmove hp halone => h s s' (halone s s' hmove) (hp halone)

/-! ### Calls that programs without the lock may make -/

section Calls

variable (hG : ∀ s s', SlurmFree s s' → G s s') (hP : (slurmMoves ρ).Stable R P) {i : SlurmCall ρ}

lemma lingers_free (hexec : ∀ s r s', SlurmInvariant s → i.exec s r s' → SlurmFree s s') :
    (slurmMoves ρ).Lingers i P :=
  ⟨fun _ => True, stable_true, fun _ _ _ => trivial, fun s r s' hs _ h => hexec s r s' hs h⟩

include hG hP

/-- A question. -/
lemma runs_ask {A : i.Answer → SlurmWorld ρ → Prop} (hA : ∀ r, (slurmMoves ρ).Stable R (A r))
    (hexec : ∀ s r s', SlurmInvariant s → i.exec s r s' → s' = s ∧ A r s) :
    (slurmMoves ρ).Runs G R lingers (perform i) P fun r s => P s ∧ A r s := by
  have hsame : ∀ s r s', SlurmInvariant s → i.exec s r s' → SlurmFree s s' := by
    intro s r s' hs h
    rw [(hexec s r s' hs h).1]
    exact .same
  refine runs_perform (fun s r s' hs _ h => hG _ _ (hsame s r s' hs h))
    (fun _ _ _ => lingers_free hsame)
    (fun r s s' hs hmove h => ⟨hP s s' hs hmove h.1, hA r s s' hs hmove h.2⟩)
    (fun s r s' hs hp h => ?_)
  obtain ⟨rfl, ha⟩ := hexec s r s' hs h
  exact ⟨hp, ha⟩

/-- A question whose answer does not matter. -/
lemma runs_asks (hexec : ∀ s r s', i.exec s r s' → s' = s) :
    (slurmMoves ρ).Runs G R lingers (perform i) P fun _ => P :=
  (runs_ask hG hP (A := fun _ _ => True) (fun _ => stable_true)
    fun s r s' _ h => ⟨hexec s r s' h, trivial⟩).weaken fun _ _ _ h => h.1

/-- A check. -/
lemma runs_check : (slurmMoves ρ).Runs G R lingers (SlurmProgram.attempt .check) P fun _ => P :=
  (runs_asks hG hP (i := .act .check) fun _ _ _ h => h).bind fun _ =>
    runs_raiseUnless.weaken fun _ _ _ h => h.1

/-- The record that is read, and what follows from it. -/
lemma runs_loadRecord {A : SlurmJobRecord ρ → SlurmWorld ρ → Prop}
    (hA : ∀ r, (slurmMoves ρ).Stable R (A r)) (hfile : ∀ s r, s.file = .record r → A r s) :
    (slurmMoves ρ).Runs G R lingers SlurmProgram.loadRecord P fun r s => P s ∧ A r s := by
  refine Runs.bind (runs_ask hG hP (i := .loadRecord)
    (A := fun answer s => ∀ r, answer = some r → A r s)
    (fun answer s s' hs hmove h r heq => hA r s s' hs hmove (h r heq))
    fun s answer s' _ h => ⟨h.1, fun r heq => hfile s r (h.2 r heq)⟩) fun answer => ?_
  refine Runs.weaken (runs_orFail (x := answer)) ?_
  rintro r s - ⟨⟨hp, h⟩, heq⟩
  exact ⟨hp, h r heq⟩

/-- `_scheduler_job`. -/
lemma runs_schedulerJob (id : String) (exactIdentity : Bool) :
    (slurmMoves ρ).Runs G R lingers (SlurmProgram.schedulerJob id exactIdentity) P
      fun shown s => P s ∧ (Alone R → s.Found [id] shown.toList) := by
  refine Runs.bind (runs_ask hG hP (i := .showJob id)
    (A := fun answer s => Alone R → ∀ shown, answer = some shown → s.Found [id] shown.toList)
    (fun answer => Alone.stable fun s s' hmove h shown heq => hmove.found (h shown heq))
    fun s answer s' hs h => ⟨h.1, fun _ shown heq => (h.2 shown heq).found hs⟩) fun answer => ?_
  refine Runs.bind runs_orFail fun shown => ?_
  cases shown with
  | none =>
    refine Runs.bind runs_raiseUnless fun _ => runs_ret ?_
    rintro s - ⟨⟨⟨hp, hfound⟩, heq⟩, -⟩
    exact ⟨hp, fun halone => hfound halone none heq⟩
  | some job =>
    refine Runs.bind runs_raiseUnless fun _ => runs_ret ?_
    rintro s - ⟨⟨⟨hp, hfound⟩, heq⟩, -⟩
    exact ⟨hp, fun halone => hfound halone (some job) heq⟩

/-- The loop of `_matching_scheduler_jobs`. -/
lemma runs_matchingJobs (exactIdentity : Bool) (submitTime : Option String)
    (schedulerUid : Option Nat) (ids : List String) :
    (slurmMoves ρ).Runs G R lingers
      (SlurmProgram.matchingJobs exactIdentity submitTime schedulerUid ids) P
      fun found s => P s ∧ (Alone R → s.Found ids found) := by
  induction ids generalizing P with
  | nil => exact fun s _ hp => ⟨hp, fun _ => .nil⟩
  | cons id ids ih =>
    refine Runs.bind (runs_schedulerJob hG hP id exactIdentity) fun shown => ?_
    have hkept : (slurmMoves ρ).Stable R
        fun s => P s ∧ (Alone R → s.Found [id] shown.toList) := by
      intro s s' hs hmove h
      exact ⟨hP s s' hs hmove h.1,
        Alone.stable (fun s s' hmove h => hmove.found h) s s' hs hmove h.2⟩
    cases shown with
    | none =>
      refine (ih hkept).weaken ?_
      rintro found s - ⟨⟨hp, hfirst⟩, hrest⟩
      exact ⟨hp, fun halone => (hfirst halone).append (hrest halone)⟩
    | some job =>
      refine Runs.bind runs_raiseUnless fun _ => Runs.bind runs_raiseUnless fun _ => ?_
      refine Runs.bind ((ih hkept).mono fun s _ h => h.1.1) fun found => runs_ret ?_
      rintro s - ⟨⟨hp, hfirst⟩, hrest⟩
      exact ⟨hp, fun halone => (hfirst halone).append (hrest halone)⟩

/-- `_queued_job_ids`: when an id is given all jobs of the invocation have it. -/
lemma runs_queuedJobIds (schedulerJobId : Option String)
    (hid : Alone R → ∀ s, SlurmInvariant s → P s → ∀ id, schedulerJobId = some id →
      ∀ j ∈ s.jobs, j.schedulerJobId = id) :
    (slurmMoves ρ).Runs G R lingers (SlurmProgram.queuedJobIds schedulerJobId) P
      fun ids s => P s ∧ (Alone R → s.Lists ids) := by
  refine Runs.bind (runs_ask hG hP (i := .squeue)
    (A := fun answer s => Alone R → ∀ ids, answer = some ids → s.Lists ids)
    (fun answer => Alone.stable fun s s' hmove h ids heq => hmove.lists (h ids heq))
    fun s answer s' _ h => ⟨h.1, fun _ ids heq => h.2 ids heq⟩) fun answer => ?_
  refine Runs.bind runs_orFail fun ids => Runs.bind runs_raiseUnless fun _ => ?_
  cases schedulerJobId with
  | none =>
    refine runs_ret ?_
    rintro s - ⟨⟨⟨hp, hlists⟩, heq⟩, -⟩
    exact ⟨hp, fun halone => hlists halone ids heq⟩
  | some id =>
    refine runs_ret ?_
    rintro s hs ⟨⟨⟨hp, hlists⟩, heq⟩, -⟩
    refine ⟨hp, fun halone j hj hlive => List.mem_filter.mpr ⟨hlists halone ids heq j hj hlive, ?_⟩⟩
    exact decide_eq_true (hid halone s hs hp id rfl j hj)

/-- `_matching_scheduler_jobs`: what was found has all jobs that have not ended. -/
lemma runs_matchingSchedulerJobs (schedulerJobId submitTime : Option String)
    (schedulerUid : Option Nat)
    (hid : Alone R → ∀ s, SlurmInvariant s → P s → ∀ id, schedulerJobId = some id →
      ∀ j ∈ s.jobs, j.schedulerJobId = id) :
    (slurmMoves ρ).Runs G R lingers
      (SlurmProgram.matchingSchedulerJobs schedulerJobId submitTime schedulerUid) P
      fun found s => P s ∧ (Alone R → ∃ ids, s.Lists ids ∧ s.Found ids found) := by
  refine Runs.bind (runs_queuedJobIds hG hP schedulerJobId hid) fun ids => ?_
  have hkept : (slurmMoves ρ).Stable R fun s => P s ∧ (Alone R → s.Lists ids) := by
    intro s s' hs hmove h
    exact ⟨hP s s' hs hmove h.1,
      Alone.stable (fun s s' hmove h => hmove.lists h) s s' hs hmove h.2⟩
  refine (runs_matchingJobs hG hkept schedulerJobId.isSome submitTime schedulerUid ids).weaken ?_
  rintro found s - ⟨⟨hp, hlists⟩, hfound⟩
  exact ⟨hp, fun halone => ⟨ids, hlists halone, hfound halone⟩⟩

/-- `_matching_live_jobs`: when none is left all jobs have ended. -/
lemma runs_matchingLiveJobs (schedulerJobId submitTime : Option String)
    (schedulerUid : Option Nat)
    (hid : Alone R → ∀ s, SlurmInvariant s → P s → ∀ id, schedulerJobId = some id →
      ∀ j ∈ s.jobs, j.schedulerJobId = id) :
    (slurmMoves ρ).Runs G R lingers
      (SlurmProgram.matchingLiveJobs schedulerJobId submitTime schedulerUid) P
      fun active s => P s ∧ (Alone R → active = [] → ∀ j ∈ s.jobs, j.Terminal) := by
  refine Runs.bind (runs_matchingSchedulerJobs hG hP schedulerJobId submitTime schedulerUid hid)
    fun found => Runs.bind runs_raiseUnless fun _ => runs_ret ?_
  rintro s - ⟨⟨hp, hfound⟩, hstates⟩
  refine ⟨hp, fun halone hnone j hj => ?_⟩
  by_contra hlive
  obtain ⟨ids, hlists, hfound⟩ := hfound halone
  obtain ⟨job, hjob, hjlive⟩ := hfound.complete j hj hlive (hlists j hj hlive)
  rcases hstates job hjob with hstate | hstate
  · have hmem : job ∈ found.filter fun j => j.state ∈ QUEUED_SLURM_STATES ++ ACTIVE_SLURM_STATES :=
      List.mem_filter.mpr ⟨hjob, decide_eq_true hstate⟩
    rw [hnone] at hmem
    cases hmem
  · exact hjlive hstate

variable (hR : ∀ s s', SlurmFree s s' → R s s')

include hR

/-- A command that may run without the lock. -/
lemma runs_attempt_free {a : SlurmAct ρ}
    (hexec : ∀ s r s', SlurmInvariant s → P s → a.exec s r s' → SlurmFree s s')
    (hlinger : (slurmMoves ρ).Lingers (.act a) P) :
    (slurmMoves ρ).Runs G R lingers (SlurmProgram.attempt a) P fun _ => P := by
  refine Runs.bind (T := fun _ => P) (runs_perform
    (fun s r s' hs hp h => hG _ _ (hexec s r s' hs hp h)) (fun _ _ _ => hlinger) (fun _ => hP)
    fun s r s' hs hp h => hP s s' hs (hR s s' (hexec s r s' hs hp h)) hp)
    fun r => runs_raiseUnless.weaken fun _ _ _ h => h.1

lemma runs_scancel (id : String) :
    (slurmMoves ρ).Runs G R lingers (SlurmProgram.attempt (.scancel id)) P fun _ => P :=
  runs_attempt_free hG hP hR (fun _ _ _ _ _ h => .goesOn h)
    (lingers_free fun _ _ _ _ h => .goesOn h)

/-- `_release_if_held`, under a record that allows the release. -/
lemma runs_releaseIfHeld (id submitTime : String) (schedulerUid : Nat)
    (hid : Alone R → ∀ s, SlurmInvariant s → P s → ∀ j ∈ s.jobs, j.schedulerJobId = id)
    (hreleases : ∀ s, P s → s.Releases id)
    (hstable : (slurmMoves ρ).Stable (slurmMoves ρ).Around fun s => s.Releases id) :
    (slurmMoves ρ).Runs G R lingers (SlurmProgram.releaseIfHeld id submitTime schedulerUid) P
      fun _ => P := by
  have hfree : ∀ s r s', SlurmWorld.Releases s id → (SlurmAct.release id).exec s r s' →
      SlurmFree (ρ := ρ) s s' := by
    rintro s r s' hs (rfl | rfl)
    · exact .same
    · exact .release id hs
  refine Runs.bind (runs_matchingSchedulerJobs hG hP (some id) (some submitTime)
    (some schedulerUid) fun halone s hs hp id' heq => ?_) fun jobs => ?_
  · cases heq
    exact hid halone s hs hp
  match jobs with
  | [] => exact fun s _ h => h.1
  | [job] =>
    show (slurmMoves ρ).Runs G R lingers
      (if job.Held then SlurmProgram.attempt (.release id) else .ret ()) _ _
    by_cases hheld : job.Held
    · rw [if_pos hheld]
      refine Runs.mono (runs_attempt_free hG hP hR (fun s r s' _ hp h => hfree s r s'
        (hreleases s hp) h) ?_) fun s _ h => h.1
      exact ⟨_, hstable, fun s _ hp => hreleases s hp, fun s r s' _ hp h => hfree s r s' hp h⟩
    · rw [if_neg hheld]
      exact fun s _ h => h.1
  | _ :: _ :: _ => exact runs_raise

/-- The last branch of `_recover_submission`. -/
lemma runs_releaseSubmitted (id : String) (c : Option String) (t : String) (u : ℕ) (r : Option ρ)
    (hid : Alone R → ∀ s, SlurmInvariant s → P s → ∀ j ∈ s.jobs, j.schedulerJobId = id)
    (hreleases : ∀ s, P s → s.Releases id)
    (hstable : (slurmMoves ρ).Stable (slurmMoves ρ).Around fun s => s.Releases id) :
    (slurmMoves ρ).Runs G R lingers (SlurmProgram.releaseRecord (.submitted id c t u r)) P
      fun r' s => P s ∧ r' = .submitted id c t u r :=
  (runs_releaseIfHeld hG hP hR id t u hid hreleases hstable).bind
    fun _ => runs_ret fun _ _ hp => ⟨hp, rfl⟩

end Calls

/-! ### Without the lock -/

lemma around_not_alone : ¬ Alone (slurmMoves ρ).Around := by
  intro halone
  have hfile := (halone {} { file := .torn } (Or.inl (.create .torn rfl (Or.inl rfl)))).file
  cases hfile

lemma releases_stable (id : String) :
    (slurmMoves ρ).Stable (slurmMoves ρ).Around fun s => s.Releases id :=
  fun _ _ _ hmove h => (slurmMoves_around hmove).releases h

/-- A launch of another invocation. -/
theorem countSlot_runs :
    (slurmMoves ρ).RunsFree SlurmProgram.countSlot (fun _ => True) fun _ _ => True := by
  have hR : ∀ s s' : SlurmWorld ρ, SlurmFree s s' → (slurmMoves ρ).Around s s' :=
    fun s s' h => Or.inr (Or.inl h)
  have htrue : (slurmMoves ρ).Stable (slurmMoves ρ).Around fun _ => True := stable_true
  refine Runs.bind (runs_asks (fun _ _ h => h) htrue (i := .exists) fun _ _ _ h => h.1)
    fun present => ?_
  cases present with
  | false => exact fun _ _ _ => trivial
  | true =>
    refine Runs.bind (runs_loadRecord (fun _ _ h => h) htrue
      (A := fun record s => ∀ id c t u r, record = .submitted id c t u r → s.Releases id)
      (fun record s s' hs hmove h id c t u r heq =>
        releases_stable id s s' hs hmove (h id c t u r heq))
      fun s record hfile id c t u r heq => Or.inl ⟨c, t, u, r, heq ▸ hfile⟩) fun record => ?_
    match record with
    | .prepared => exact fun _ _ _ => trivial
    | .accepted _ _ => exact fun _ _ _ => trivial
    | .abandoned => exact fun _ _ _ => trivial
    | .submitted _ _ _ _ (some _) => exact fun _ _ _ => trivial
    | .submitted id c t u none =>
      refine Runs.bind (Runs.mono (runs_releaseSubmitted (fun _ _ h => h) (releases_stable id) hR
        id c t u none (fun halone => absurd halone around_not_alone) (fun _ h => h)
        (releases_stable id)) fun s _ h => h.2 id c t u none rfl) fun _ => ?_
      refine Runs.bind (Runs.mono (runs_asks (fun _ _ h => h) htrue (i := .observe)
        fun _ _ _ h => h) fun _ _ _ => trivial) fun answer => Runs.bind runs_orFail fun _ => ?_
      exact fun _ _ _ => trivial

/-! ### Under the lock -/

lemma beside_alone : Alone (slurmMoves ρ).Beside := fun _ _ => slurmMoves_beside

lemma free_beside (s s' : SlurmWorld ρ) (h : SlurmFree s s') : (slurmMoves ρ).Beside s s' :=
  Or.inl h

lemma free_locked (s s' : SlurmWorld ρ) (h : SlurmFree s s') : (slurmMoves ρ).locked s s' := .free h

lemma stable_beside (h : ∀ s s' : SlurmWorld ρ, SlurmFree s s' → P s → P s') :
    (slurmMoves ρ).Stable (slurmMoves ρ).Beside P :=
  fun s s' _ hmove hp => h s s' (slurmMoves_beside hmove) hp

lemma file_stable (f : SlurmRecordFile ρ) :
    (slurmMoves ρ).Stable (slurmMoves ρ).Beside fun s => s.file = f :=
  stable_beside fun _ _ hmove h => hmove.file.trans h

lemma SlurmInvariant.accepted_named (h : SlurmInvariant s)
    {c : Option String} (hfile : s.file = .record (.accepted id c)) :
    ∀ j ∈ s.jobs, j.schedulerJobId = id := by
  obtain ⟨j, hj, hid⟩ := h.accepted id c hfile
  simpa [hj] using hid

lemma SlurmInvariant.submitted_named (h : SlurmInvariant s)
    {c : Option String} {t : String} {u : ℕ} {r : Option ρ}
    (hfile : s.file = .record (.submitted id c t u r)) : ∀ j ∈ s.jobs, j.schedulerJobId = id := by
  obtain ⟨j, hj, hid, -, -⟩ := h.submitted id c t u r hfile
  simpa [hj] using hid

variable {a : SlurmAct ρ}

/-- A call under the lock that ends with its program. -/
lemma locked_attempt {Q : SlurmWorld ρ → Prop}
    (hlinger : (SlurmCall.act a).lingers = false) (hQ : ∀ s s', SlurmFree s s' → Q s → Q s')
    (hmove : ∀ s r s', SlurmInvariant s → P s → a.exec s r s' →
      SlurmLocked s s' ∧ (r = true → Q s')) :
    (slurmMoves ρ).RunsLocked (SlurmProgram.attempt a) P fun _ => Q := by
  refine Runs.bind (T := fun r s => r = true → Q s) (runs_perform
    (fun s r s' hs hp h => (hmove s r s' hs hp h).1)
    (fun _ hl _ => nomatch hlinger.symm.trans hl)
    (fun r => stable_beside fun s s' h hq hr => hQ s s' h (hq hr))
    fun s r s' hs hp h => (hmove s r s' hs hp h).2) fun r => ?_
  exact runs_raiseUnless.weaken fun _ _ _ h => h.1 h.2

lemma locked_writeRecord {r : SlurmJobRecord ρ}
    (h : ∀ s, SlurmInvariant s → P s → SlurmLocked s { s with file := .record r }) :
    (slurmMoves ρ).RunsLocked (SlurmProgram.writeRecord r) P
      fun r' s => s.file = .record r ∧ r' = r := by
  refine Runs.bind (locked_attempt (Q := fun s => s.file = .record r) rfl
    (fun _ _ hmove hfile => hmove.file.trans hfile) fun s b s' hs hp hexec => ?_)
    fun _ => runs_ret fun _ _ hfile => ⟨hfile, rfl⟩
  cases b with
  | true =>
    obtain rfl : s' = _ := hexec
    exact ⟨h s hs hp, fun _ => rfl⟩
  | false =>
    rcases hexec with rfl | rfl
    · exact ⟨.free .same, fun hfalse => nomatch hfalse⟩
    · exact ⟨h s hs hp, fun hfalse => nomatch hfalse⟩

/-- `_bind_accepted_job`. -/
lemma locked_bindAcceptedJob (id : String) (c : Option String) :
    (slurmMoves ρ).RunsLocked (SlurmProgram.bindAcceptedJob id c)
      (fun s => s.file = .record (.accepted id c))
      fun r s => s.file = .record r ∧ ∃ t u, r = .submitted id c t u none := by
  refine Runs.bind (runs_matchingSchedulerJobs free_locked (file_stable _) (some id) none none
    fun _ s hs hfile id' heq => ?_) fun jobs => ?_
  · cases heq
    exact hs.accepted_named hfile
  match jobs with
  | [] => exact runs_raise
  | [job] =>
    refine Runs.bind runs_raiseUnless fun _ => ?_
    refine Runs.weaken (locked_writeRecord ?_) ?_
    · rintro s hs ⟨⟨hfile, hfound⟩, -⟩
      obtain ⟨ids, -, hfound⟩ := hfound beside_alone
      obtain ⟨j, hj, -, htime, huid⟩ := hfound.sound job (List.mem_singleton_self job)
      obtain ⟨k, hk, -⟩ := hs.accepted id c hfile
      rw [hk, List.mem_singleton] at hj
      subst hj
      rw [← htime, ← huid]
      exact .bind j id c hfile hk
    · rintro r s - ⟨hfile, rfl⟩
      exact ⟨hfile, _, _, rfl⟩
  | _ :: _ :: _ => exact runs_raise

lemma locked_releaseRecord (r : SlurmJobRecord ρ) :
    (slurmMoves ρ).RunsLocked (SlurmProgram.releaseRecord r) (fun s => s.file = .record r)
      fun r' s => s.file = .record r ∧ r' = r := by
  cases r with
  | submitted id c t u r =>
    exact runs_releaseSubmitted free_locked (file_stable _) free_beside id c t u r
      (fun _ s hs hfile => hs.submitted_named hfile) (fun s hfile => Or.inl ⟨c, t, u, r, hfile⟩)
      (releases_stable id)
  | prepared => exact fun s _ hfile => ⟨hfile, rfl⟩
  | accepted id c => exact fun s _ hfile => ⟨hfile, rfl⟩
  | abandoned => exact fun s _ hfile => ⟨hfile, rfl⟩

def SlurmJobRecord.result : SlurmJobRecord ρ → Option ρ
  | .submitted _ _ _ _ r => r
  | _ => none

/-- From the acceptance on. -/
lemma locked_bindAndRelease (id : String) (c : Option String) :
    (slurmMoves ρ).RunsLocked
      (do let submitted ← SlurmProgram.bindAcceptedJob id c; SlurmProgram.releaseRecord submitted)
      (fun s => s.file = .record (.accepted id c))
      fun r s => s.file = .record r ∧ r.result = none := by
  refine Runs.bind (locked_bindAcceptedJob id c) fun r => runs_and fun hr => ?_
  refine Runs.weaken (locked_releaseRecord r) ?_
  rintro r' s - ⟨hfile, rfl⟩
  obtain ⟨t, u, rfl⟩ := hr
  exact ⟨hfile, rfl⟩

/-- `_recover_submission`: it adds no result. -/
lemma locked_recoverSubmission (r : SlurmJobRecord ρ) :
    (slurmMoves ρ).RunsLocked (SlurmProgram.recoverSubmission r) (fun s => s.file = .record r)
      fun r' s => s.file = .record r' ∧ (r.result = none → r'.result = none) := by
  have hkeeps : (slurmMoves ρ).RunsLocked (SlurmProgram.releaseRecord r)
      (fun s => s.file = .record r)
      fun r' s => s.file = .record r' ∧ (r.result = none → r'.result = none) := by
    refine Runs.weaken (locked_releaseRecord r) ?_
    rintro r' s - ⟨hfile, rfl⟩
    exact ⟨hfile, id⟩
  cases r with
  | submitted id c t u r => exact hkeeps
  | abandoned => exact hkeeps
  | accepted id c =>
    exact Runs.weaken (locked_bindAndRelease id c) fun r' s _ h => ⟨h.1, fun _ => h.2⟩
  | prepared =>
    refine Runs.bind (runs_matchingSchedulerJobs free_locked (file_stable _) none none none
      fun _ s _ _ id heq => nomatch heq) fun jobs => ?_
    match jobs with
    | [] => exact runs_raise
    | [job] =>
      refine Runs.bind (locked_writeRecord ?_) fun _ => Runs.weaken (Runs.mono
        (locked_bindAndRelease job.schedulerJobId none) fun s _ h => h.1)
        fun r' s _ h => ⟨h.1, fun _ => h.2⟩
      rintro s hs ⟨hfile, hfound⟩
      obtain ⟨ids, -, hfound⟩ := hfound beside_alone
      obtain ⟨j, hj, hid, -⟩ := hfound.sound job (List.mem_singleton_self job)
      rw [← hid]
      exact .accept j none hfile (hs.jobs_eq hj)
    | _ :: _ :: _ => exact runs_raise

/-- The record that is read under the lock is there until it is written. -/
lemma locked_loadRecord (hP : (slurmMoves ρ).Stable (slurmMoves ρ).Beside P) :
    (slurmMoves ρ).RunsLocked SlurmProgram.loadRecord P fun r s => P s ∧ s.file = .record r :=
  runs_loadRecord free_locked hP (fun r => file_stable (.record r)) fun _ _ h => h

lemma locked_ownedRecord (hP : (slurmMoves ρ).Stable (slurmMoves ρ).Beside P) :
    (slurmMoves ρ).RunsLocked SlurmProgram.ownedRecord P fun r s => P s ∧ s.file = .record r := by
  refine Runs.bind (locked_loadRecord hP) fun r => ?_
  have hkept : (slurmMoves ρ).Stable (slurmMoves ρ).Beside
      fun s => P s ∧ s.file = .record r := fun s s' hs hmove h =>
    ⟨hP s s' hs hmove h.1, file_stable (.record r) s s' hs hmove h.2⟩
  exact Runs.bind (runs_check free_locked hkept) fun _ => fun _ _ h => h

def SlurmWorld.NoResult (s : SlurmWorld ρ) : Prop :=
  ∃ r, s.file = .record r ∧ r.result = none

lemma noResult_stable (c : Prop) :
    (slurmMoves ρ).Stable (slurmMoves ρ).Beside fun s => c → s.NoResult :=
  stable_beside fun _ _ hmove h hc =>
    let ⟨r, hfile, hr⟩ := h hc
    ⟨r, hmove.file.trans hfile, hr⟩

/-- `_inspect_locked`: the record has no result when it had none. -/
lemma locked_inspect (c : Prop) :
    (slurmMoves ρ).RunsLocked SlurmProgram.inspect (fun s => c → s.NoResult)
      fun _ s => c → s.NoResult := by
  refine Runs.bind (locked_ownedRecord (noResult_stable c)) fun r => ?_
  refine Runs.bind (T := fun _ s => c → s.NoResult) ?_ fun r' => ?_
  · have hrecover (hr : c → r.result = none) :
        (slurmMoves ρ).RunsLocked (SlurmProgram.recoverSubmission r)
          (fun s => s.file = .record r) fun _ s => c → s.NoResult :=
      Runs.weaken (locked_recoverSubmission r) fun r' s _ h hc => ⟨r', h.1, h.2 (hr hc)⟩
    refine Runs.mono (runs_and hrecover) ?_
    rintro s - ⟨hnone, hfile⟩
    refine ⟨hfile, fun hc => ?_⟩
    obtain ⟨k, hk, hresult⟩ := hnone hc
    cases hk.symm.trans hfile
    exact hresult
  · have hobserve : (slurmMoves ρ).RunsLocked
        (do let answer ← perform .observe; orFail answer) (fun s => c → s.NoResult)
        fun (_ : Option ρ) s => c → s.NoResult :=
      Runs.bind (runs_asks free_locked (noResult_stable c) (i := .observe) fun _ _ _ h => h)
        fun answer => Runs.weaken runs_orFail fun _ _ _ h => h.1
    cases r' with
    | abandoned => exact fun _ _ h => h
    | prepared => exact hobserve
    | accepted id c' => exact hobserve
    | submitted id c' t u r => exact hobserve

/-! ### The operations -/

theorem inspect_runs :
    (slurmMoves ρ).RunsLocked (do let _ ← SlurmProgram.inspect; return ()) (fun _ => True)
      fun _ _ => True :=
  Runs.bind (Runs.mono (locked_inspect False) fun _ _ _ hfalse => hfalse.elim)
    fun _ _ _ _ => trivial

theorem collect_runs :
    (slurmMoves ρ).RunsLocked SlurmProgram.collect (fun _ => True) fun _ _ => True := by
  refine Runs.bind (locked_ownedRecord stable_true) fun r => ?_
  have hcollect (hr : r.result = none) : (slurmMoves ρ).RunsLocked (do
      let ended ← SlurmProgram.inspect
      let r ← SlurmProgram.ownedRecord
      let result ← orFail ended
      match r with
      | .submitted id cluster submitTime uid _ => do
        let _ ← SlurmProgram.writeRecord (.submitted id cluster submitTime uid (some result))
        return ()
      | _ => raise) (fun s => True ∧ s.file = .record r) fun _ _ => True := by
    refine Runs.bind (Runs.mono (locked_inspect True) fun s _ h _ => ⟨r, h.2, hr⟩) fun ended => ?_
    refine Runs.bind (locked_ownedRecord (noResult_stable True)) fun r' => ?_
    refine Runs.bind runs_orFail fun result => ?_
    match r' with
    | .submitted id c t u old =>
      refine Runs.bind (locked_writeRecord ?_) fun _ => fun _ _ _ => trivial
      rintro s - ⟨⟨hnone, hfile⟩, -⟩
      obtain ⟨k, hk, hresult⟩ := hnone trivial
      cases hk.symm.trans hfile
      obtain rfl : old = none := hresult
      exact .collect id c t u result hfile
    | .prepared => exact runs_raise
    | .accepted _ _ => exact runs_raise
    | .abandoned => exact runs_raise
  match r with
  | .submitted _ _ _ _ (some _) => exact fun _ _ _ => trivial
  | .submitted _ _ _ _ none => exact hcollect rfl
  | .prepared => exact hcollect rfl
  | .accepted _ _ => exact hcollect rfl
  | .abandoned => exact hcollect rfl

lemma awaitEnd_runs (polls : ℕ) :
    (slurmMoves ρ).RunsLocked (SlurmProgram.awaitEnd polls) (fun _ => True) fun _ _ => True := by
  induction polls with
  | zero => exact runs_raise
  | succ polls ih =>
    refine Runs.bind (runs_asks free_locked stable_true (i := .observe) fun _ _ _ h => h)
      fun answer => Runs.bind runs_orFail fun ended => ?_
    cases ended with
    | some _ => exact fun _ _ _ => trivial
    | none => exact Runs.mono ih fun _ _ _ => trivial

theorem cancel_runs (polls : ℕ) :
    (slurmMoves ρ).RunsLocked (SlurmProgram.cancel polls) (fun _ => True) fun _ _ => True := by
  refine Runs.bind (locked_ownedRecord stable_true) fun r => ?_
  refine Runs.bind (Runs.mono (locked_recoverSubmission r) fun _ _ h => h.2) fun r' => ?_
  cases r' with
  | submitted id c t u result =>
    refine Runs.bind (Runs.mono (runs_asks free_locked stable_true (i := .observe)
      fun _ _ _ h => h) fun _ _ _ => trivial) fun answer => Runs.bind runs_orFail fun ended => ?_
    cases ended with
    | some _ => exact fun _ _ _ => trivial
    | none =>
      refine Runs.bind (Runs.mono (runs_scancel free_locked stable_true free_beside id)
        fun _ _ _ => trivial) fun _ => awaitEnd_runs polls
  | prepared => exact fun _ _ _ => trivial
  | accepted _ _ => exact fun _ _ _ => trivial
  | abandoned => exact fun _ _ _ => trivial

/-- The calls that leave the record and the jobs. -/
inductive LeavesRecord : SlurmAct ρ → Prop
  | makeDirectory : LeavesRecord .makeDirectory
  | makeControl : LeavesRecord .makeControl
  | writeLaunchFiles : LeavesRecord .writeLaunchFiles
  | removeControl : LeavesRecord .removeControl
  | removeDirectory : LeavesRecord .removeDirectory

lemma LeavesRecord.exec (ha : LeavesRecord a) {r : Bool}
    (h : a.exec s r s') : s'.file = s.file ∧ s'.jobs = s.jobs := by
  cases ha with
  | writeLaunchFiles => rcases h with rfl | rfl <;> exact ⟨rfl, rfl⟩
  | makeDirectory =>
    cases r with
    | false =>
      obtain rfl : s' = s := h
      exact ⟨rfl, rfl⟩
    | true =>
      obtain ⟨-, rfl⟩ := h
      exact ⟨rfl, rfl⟩
  | removeDirectory =>
    cases r with
    | false =>
      obtain rfl : s' = s := h
      exact ⟨rfl, rfl⟩
    | true =>
      obtain ⟨-, -, rfl⟩ := h
      exact ⟨rfl, rfl⟩
  | makeControl =>
    cases r <;> obtain rfl : s' = _ := h <;> exact ⟨rfl, rfl⟩
  | removeControl =>
    cases r <;> obtain rfl : s' = _ := h <;> exact ⟨rfl, rfl⟩

lemma locked_directory (ha : LeavesRecord a) (hfree : ∀ s s', SlurmFree s s' → P s → P s')
    (hcongr : ∀ s s', s'.file = s.file → s'.jobs = s.jobs → P s → P s') :
    (slurmMoves ρ).RunsLocked (SlurmProgram.attempt a) P fun _ => P := by
  have hlinger : (SlurmCall.act a).lingers = false := by cases ha <;> rfl
  refine locked_attempt hlinger hfree fun s r s' _ hp h => ?_
  obtain ⟨hfile, hjobs⟩ := ha.exec h
  exact ⟨.directory hfile hjobs, fun _ => hcongr s s' hfile hjobs hp⟩

/-- The record in a phase in which there is no job yet. -/
def SlurmWorld.Unsubmitted (f : SlurmRecordFile ρ) (s : SlurmWorld ρ) : Prop :=
  s.file = f ∧ s.jobs = []

lemma SlurmFree.unsubmitted {f : SlurmRecordFile ρ} (h : SlurmFree s s')
    (hs : s.Unsubmitted f) : s'.Unsubmitted f := ⟨h.file.trans hs.1, h.jobs_nil hs.2⟩

lemma locked_directory_unsubmitted (f : SlurmRecordFile ρ) (ha : LeavesRecord a) :
    (slurmMoves ρ).RunsLocked (SlurmProgram.attempt a) (SlurmWorld.Unsubmitted f)
      fun _ => SlurmWorld.Unsubmitted f :=
  locked_directory ha (fun _ _ hmove h => hmove.unsubmitted h)
    fun _ _ hfile hjobs h => ⟨hfile.trans h.1, hjobs.trans h.2⟩

lemma unsubmitted_stable (f : SlurmRecordFile ρ) :
    (slurmMoves ρ).Stable (slurmMoves ρ).Beside (SlurmWorld.Unsubmitted f) :=
  stable_beside fun _ _ hmove h => hmove.unsubmitted h

lemma locked_createRecord :
    (slurmMoves ρ).RunsLocked (SlurmProgram.attempt (.createRecord .prepared))
      (SlurmWorld.Unsubmitted .absent) fun _ => SlurmWorld.Unsubmitted (.record .prepared) := by
  refine locked_attempt rfl (fun _ _ hmove h => hmove.unsubmitted h) fun s r s' _ hp h => ?_
  cases r with
  | true =>
    obtain ⟨hfile, rfl⟩ := h
    exact ⟨.create _ hfile (Or.inr rfl), fun _ => ⟨rfl, hp.2⟩⟩
  | false =>
    refine ⟨?_, fun hfalse => nomatch hfalse⟩
    rcases h with rfl | ⟨hfile, rfl | rfl⟩
    · exact .free .same
    · exact .create _ hfile (Or.inl rfl)
    · exact .create _ hfile (Or.inr rfl)

/-- A job was submitted under the prepared record. -/
def SlurmWorld.Accepts (id : String) (s : SlurmWorld ρ) : Prop :=
  s.file = .record .prepared ∧ ∃ j ∈ s.jobs, j.schedulerJobId = id

lemma SlurmFree.accepts (h : SlurmFree s s') (hs : s.Accepts id) : s'.Accepts id := by
  obtain ⟨hfile, j, hj, hid⟩ := hs
  obtain ⟨j', hj', hid', -⟩ := h.jobs_mem hj
  exact ⟨h.file.trans hfile, j', hj', hid'.trans hid⟩

/-- The submission: the record is prepared, and there is no job. -/
lemma locked_sbatch :
    (slurmMoves ρ).RunsLocked (perform .sbatch) (SlurmWorld.Unsubmitted (.record .prepared))
      fun r s => ∀ id c, r = some (id, c) → s.Accepts id := by
  refine runs_perform (fun s r s' _ hp h => ?_) (fun _ _ hfalse => nomatch hfalse)
    (fun r => stable_beside fun s s' hmove h id c heq => hmove.accepts (h id c heq))
    fun s r s' _ hp h id c heq => ?_
  · rcases h with ⟨-, rfl⟩ | ⟨job, hheld, -, rfl, -⟩
    · exact .free .same
    · rw [hp.2]
      exact .submit job hp.1 hp.2 hheld
  · subst heq
    rcases h with ⟨hnone, -⟩ | ⟨job, -, -, rfl, hnone | ⟨c', heq⟩⟩
    · cases hnone
    · cases hnone
    · cases heq
      exact ⟨hp.1, job, List.mem_append_right _ (List.mem_singleton_self job), rfl⟩

theorem launch_runs :
    (slurmMoves ρ).RunsLocked SlurmProgram.launch (fun _ => True) fun _ _ => True := by
  refine Runs.bind (runs_check free_locked stable_true) fun _ => ?_
  refine Runs.bind (runs_ask free_locked stable_true (i := .exists)
    (A := fun present s => present = false → s.Unsubmitted .absent)
    (fun _ => stable_beside fun _ _ hmove h heq => hmove.unsubmitted (h heq))
    fun s present s' hs h => ⟨h.1, fun heq => ?_⟩) fun present => ?_
  · have hfile : s.file = .absent := by
      by_contra hpresent
      rw [h.2.mpr hpresent] at heq
      cases heq
    exact ⟨hfile, hs.unrecorded fun r hr => by rw [hfile] at hr; cases hr⟩
  cases present with
  | true =>
    refine Runs.bind (Runs.mono (locked_loadRecord stable_true) fun _ _ _ => trivial) fun r => ?_
    refine Runs.bind (Runs.mono (runs_check free_locked (file_stable (.record r)))
      fun _ _ h => h.2) fun _ => ?_
    match r with
    | .submitted id c t u result =>
      exact Runs.bind (locked_recoverSubmission _) fun _ => fun _ _ _ => trivial
    | .prepared => exact runs_raise
    | .accepted _ _ => exact runs_raise
    | .abandoned => exact runs_raise
  | false =>
    refine Runs.bind (Runs.mono (runs_check free_locked (unsubmitted_stable .absent))
      fun _ _ h => h.2 rfl) fun _ => ?_
    refine Runs.bind (locked_directory_unsubmitted .absent .makeDirectory) fun _ => ?_
    refine Runs.bind (locked_directory_unsubmitted .absent .makeControl) fun _ => ?_
    refine Runs.bind locked_createRecord fun _ => ?_
    refine Runs.bind (locked_directory_unsubmitted (.record .prepared) .writeLaunchFiles)
      fun _ => ?_
    refine Runs.bind (runs_check free_locked (unsubmitted_stable _)) fun _ => ?_
    refine Runs.bind locked_sbatch fun answer => Runs.bind runs_orFail fun submitted => ?_
    obtain ⟨id, c⟩ := submitted
    refine Runs.bind (locked_writeRecord ?_) fun _ => ?_
    · rintro s hs ⟨haccepts, heq⟩
      obtain ⟨hfile, j, hj, rfl⟩ := haccepts id c heq
      exact .accept j c hfile (hs.jobs_eq hj)
    refine Runs.mono (Runs.bind (p := SlurmProgram.bindAcceptedJob id c)
      (locked_bindAcceptedJob id c) fun r => ?_) fun s _ h => h.1
    refine Runs.bind (Runs.mono (locked_releaseRecord r) fun s _ h => h.1) fun _ => ?_
    exact fun _ _ _ => trivial

/-! ### Abandonment -/

def SlurmWorld.AllTerminal (s : SlurmWorld ρ) : Prop := ∀ j ∈ s.jobs, j.Terminal

lemma SlurmFree.allTerminal (h : SlurmFree s s') (hs : s.AllTerminal) : s'.AllTerminal := by
  intro j' hj'
  obtain ⟨j, hj, -, hterminal⟩ := h.mem_jobs hj'
  exact hterminal (hs j hj)

lemma cancelAll_runs (hP : (slurmMoves ρ).Stable (slurmMoves ρ).Beside P)
    (jobs : List ActiveSlurmJob) :
    (slurmMoves ρ).RunsLocked (SlurmProgram.cancelAll jobs) P fun _ => P := by
  induction jobs with
  | nil => exact fun _ _ h => h
  | cons job jobs ih =>
    exact Runs.bind (runs_scancel free_locked hP free_beside job.schedulerJobId) fun _ => ih

/-- The loop of `_abandon_locked`: when it ends all jobs have ended. -/
lemma quiesce_runs (hP : ∀ s s', SlurmFree s s' → P s → P s') (r : Option (SlurmJobRecord ρ))
    (invokingUid : ℕ) (hid : ∀ s, SlurmInvariant s → P s → ∀ id,
      (SlurmProgram.identity r).1 = some id → ∀ j ∈ s.jobs, j.schedulerJobId = id) (polls : ℕ) :
    (slurmMoves ρ).RunsLocked (SlurmProgram.quiesce r invokingUid polls) P
      fun _ s => P s ∧ s.AllTerminal := by
  induction polls with
  | zero => exact runs_raise
  | succ polls ih =>
    refine Runs.bind (runs_matchingLiveJobs free_locked (stable_beside hP)
      (SlurmProgram.identity r).1 (SlurmProgram.identity r).2.1
      (if r.isNone then some invokingUid else (SlurmProgram.identity r).2.2) fun _ => hid)
      fun active => ?_
    refine Runs.bind (Runs.mono (cancelAll_runs (P := fun s =>
      P s ∧ (active = [] → s.AllTerminal)) (stable_beside fun s s' hmove h =>
        ⟨hP s s' hmove h.1, fun hnone => hmove.allTerminal (h.2 hnone)⟩) active)
      fun s _ h => ⟨h.1, h.2 beside_alone⟩) fun _ => ?_
    by_cases hnone : active = []
    · rw [if_pos hnone]
      exact fun s _ h => ⟨h.1, h.2 hnone⟩
    · rw [if_neg hnone]
      exact Runs.mono ih fun s _ h => h.1

lemma removeIncompleteJobDirectory_runs :
    (slurmMoves ρ).RunsLocked SlurmProgram.removeIncompleteJobDirectory
      (fun s => s.file = .absent) fun _ s => s.file = .absent := by
  have hfree (s s' : SlurmWorld ρ) (hmove : SlurmFree s s') (h : s.file = .absent) :
      s'.file = .absent := hmove.file.trans h
  have hcongr (s s' : SlurmWorld ρ) (hfile : s'.file = s.file) (_ : s'.jobs = s.jobs)
      (h : s.file = .absent) : s'.file = .absent := hfile.trans h
  refine Runs.bind (runs_asks free_locked (file_stable .absent) (i := .ask) fun _ _ _ h => h)
    fun present => ?_
  cases present with
  | false => exact fun _ _ h => h
  | true =>
    refine Runs.bind (runs_check free_locked (file_stable .absent)) fun _ => ?_
    exact Runs.bind (locked_directory .removeControl hfree hcongr)
      fun _ => locked_directory .removeDirectory hfree hcongr

/-- After it there is no record, or it is abandoned. -/
theorem abandon_runs (invokingUid polls : ℕ) :
    (slurmMoves ρ).RunsLocked (SlurmProgram.abandon invokingUid polls) (fun _ => True)
      fun _ s => ∀ r, s.file = .record r → r = .abandoned := by
  refine Runs.bind (runs_ask free_locked stable_true (i := .exists)
    (A := fun present s => present = false → s.file = .absent)
    (fun _ => stable_beside fun _ _ hmove h heq => hmove.file.trans (h heq))
    fun s present s' _ h => ⟨h.1, fun heq => ?_⟩) fun present => ?_
  · by_contra hpresent
    rw [h.2.mpr hpresent] at heq
    cases heq
  cases present with
  | true =>
    refine Runs.bind (Runs.mono (locked_loadRecord stable_true) fun _ _ _ => trivial) fun r => ?_
    have habandon (hid : ∀ s : SlurmWorld ρ, SlurmInvariant s → s.file = .record r → ∀ id,
        (SlurmProgram.identity (some r)).1 = some id → ∀ j ∈ s.jobs, j.schedulerJobId = id) :
        (slurmMoves ρ).RunsLocked (do
          SlurmProgram.quiesce (some r) invokingUid polls
          let _ ← SlurmProgram.writeRecord .abandoned
          return ()) (fun s => True ∧ s.file = .record r)
          fun _ s => ∀ r, s.file = .record r → r = .abandoned := by
      refine Runs.bind (Runs.mono (quiesce_runs (P := fun s => s.file = .record r)
        (fun _ _ hmove h => hmove.file.trans h) (some r) invokingUid hid polls)
        fun _ _ h => h.2) fun _ => ?_
      refine Runs.bind (locked_writeRecord fun s _ h => .abandon r h.1 h.2) fun _ => ?_
      rintro s - ⟨hfile, -⟩ r' hr'
      cases hfile.symm.trans hr'
      rfl
    match r with
    | .abandoned =>
      rintro s - ⟨-, hfile⟩ r hr
      cases hfile.symm.trans hr
      rfl
    | .prepared => exact habandon fun _ _ _ id heq => nomatch heq
    | .accepted id c =>
      refine habandon fun s hs hfile id' heq => ?_
      cases heq
      exact hs.accepted_named hfile
    | .submitted id c t u result =>
      refine habandon fun s hs hfile id' heq => ?_
      cases heq
      exact hs.submitted_named hfile
  | false =>
    refine Runs.bind (Runs.mono (quiesce_runs (P := fun s => s.file = .absent)
      (fun _ _ hmove h => hmove.file.trans h) none invokingUid
      (fun _ _ _ id heq => nomatch heq) polls) fun _ _ h => h.2 rfl) fun _ => ?_
    refine Runs.weaken (Runs.mono removeIncompleteJobDirectory_runs fun _ _ h => h.1) ?_
    intro _ s _ h r hr
    rw [h] at hr
    cases hr

theorem slurmMoves_checked : (slurmMoves ρ).Checked where
  locked := by
    rintro p (rfl | rfl | ⟨polls, rfl⟩ | rfl | ⟨invokingUid, polls, rfl⟩)
    · exact launch_runs
    · exact inspect_runs
    · exact cancel_runs polls
    · exact collect_runs
    · exact Runs.weaken (abandon_runs invokingUid polls) fun _ _ _ _ => trivial
  free := by
    rintro p rfl
    exact countSlot_runs

end EdaGym
