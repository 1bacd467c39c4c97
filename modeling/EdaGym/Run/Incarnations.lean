import EdaGym.Run.Terminal
import Mathlib.Data.List.Chain

/-!
# The chain of participant incarnations

A participant controller may die and be restored from a checkpoint any number of times. The
generations of an accepted journal form one chain: each is terminated at a point where no work is
open, and restored at once from the checkpoint its termination names.
-/

namespace EdaGym

section Journal

variable [Canonical]

/-- The incarnation an event brings up. -/
def RunEvent.incarnation? : RunEvent → Option ParticipantIncarnationBinding
  | .participantIncarnationStarted event => some event.payload.incarnation
  | .participantIncarnationRestored event => some event.payload.incarnation
  | _ => none

/-- The incarnations of a journal in order of appearance. -/
def incarnationsOf (events : List RunEvent) : List ParticipantIncarnationBinding :=
  events.filterMap RunEvent.incarnation?

/-- A termination takes the incarnation it names out of the active ones. -/
def activeStep (active : List ParticipantIncarnationBinding) :
    RunEvent → List ParticipantIncarnationBinding
  | .participantIncarnationTerminated event =>
    active.filter fun i => Canonical.participantIncarnation i ≠ event.payload.incarnationDigest
  | event => active ++ event.incarnation?.toList

/-- The incarnations brought up and not terminated since. -/
def activeIncarnations (events : List RunEvent) : List ParticipantIncarnationBinding :=
  events.foldl activeStep []

def RunEvent.checkpoint? : RunEvent → Option CheckpointCommittedEvent
  | .checkpointCommitted event => some event
  | _ => none

def checkpointsOf (events : List RunEvent) : List CheckpointCommittedEvent :=
  events.filterMap RunEvent.checkpoint?

def latestCheckpoint (events : List RunEvent) : Option CheckpointCommittedEvent :=
  (checkpointsOf events).getLast?

/-- Nothing that the journal opened is still open. -/
structure NothingOpen (events : List RunEvent) : Prop where
  evaluations : ∀ k v, ¬ evaluationBracket.Pending events k v
  leases : ∀ k v, ¬ leaseBracket.Pending events k v
  providers : ∀ k v, ¬ providerBracket.Pending events k v
  tools : ∀ k v, ¬ toolBracket.Pending events k v
  dispatches : ∀ k v, ¬ dispatchBracket.Pending events k v

namespace ParticipantIncarnationBinding

/-- Two incarnations that share no process, workspace or artifact directory. -/
structure Disjoint (prior next : ParticipantIncarnationBinding) : Prop where
  process : prior.process ≠ next.process
  workspace : prior.workspaceIdentityDigest ≠ next.workspaceIdentityDigest
  artifactDirectory :
    prior.artifactDirectoryIdentityDigest ≠ next.artifactDirectoryIdentityDigest

end ParticipantIncarnationBinding

/-- A termination after the events `before`. -/
structure TerminationSound (before : List RunEvent)
    (terminated : ParticipantIncarnationTerminatedPayload) : Prop where
  active : ∃ active, activeIncarnations before = [active] ∧
    terminated.incarnationDigest = Canonical.participantIncarnation active
  checkpoint : ∃ checkpoint, latestCheckpoint before = some checkpoint ∧
    terminated.checkpointId = checkpoint.payload.checkpointId ∧
    terminated.checkpointManifestDigest = checkpoint.payload.manifestDigest
  quiescent : NothingOpen before

/-- A restore is the one its termination asks for. -/
structure RestoreSound (terminated : ParticipantIncarnationTerminatedPayload)
    (restored : ParticipantIncarnationRestoredPayload) : Prop where
  predecessor : restored.predecessorIncarnationDigest = terminated.incarnationDigest
  checkpoint : restored.checkpointId = terminated.checkpointId
  manifest : restored.checkpointManifestDigest = terminated.checkpointManifestDigest
  restoredManifest : restored.restoredManifestDigest = terminated.checkpointManifestDigest

structure IncarnationChain (header : RunHeader) (events : List RunEvent) : Prop where
  generations : (incarnationsOf events).map ParticipantIncarnationBinding.generation =
    List.range (incarnationsOf events).length
  disjoint : (incarnationsOf events).IsChain ParticipantIncarnationBinding.Disjoint
  terminated : ∀ i event, events[i]? = some (.participantIncarnationTerminated event) →
    TerminationSound (events.take i) event.payload
  followed : ∀ i event, events[i]? = some (.participantIncarnationTerminated event) →
    events.length = i + 1 ∨ ∃ restore,
      events[i + 1]? = some (.participantIncarnationRestored restore) ∧
      RestoreSound event.payload restore.payload
  restored : ∀ i event, events[i]? = some (.participantIncarnationRestored event) →
    ∃ j termination checkpoint, i = j + 1 ∧
      events[j]? = some (.participantIncarnationTerminated termination) ∧
      RestoreSound termination.payload event.payload ∧
      latestCheckpoint (events.take j) = some checkpoint ∧
      event.payload.restoredManifestDigest = checkpoint.payload.manifestDigest
  active : header.binding.purpose ≠ .standard → ∀ i event, 2 ≤ i → events[i]? = some event →
    event.isIncarnationRestored = false →
      ∃ active, activeIncarnations (events.take i) = [active]

/-! ### One step of the projection -/

section Projection

variable {l l' : ParticipantIncarnationLifecycle} {event : RunEvent} {events : List RunEvent}

/-- What one event does to the projection. -/
inductive LifecycleEffect (l : ParticipantIncarnationLifecycle) :
    RunEvent → ParticipantIncarnationLifecycle → Prop
  | started (event : ParticipantIncarnationStartedEvent) (hnone : l.incarnations = [])
      (hactive : l.activeIncarnation = none) (hpending : l.pendingTermination = none)
      (hzero : event.payload.incarnation.generation = 0) :
      LifecycleEffect l (.participantIncarnationStarted event)
        { l with
          activeIncarnation := some event.payload.incarnation
          incarnations := [event.payload.incarnation]
          initialStartedSequence := some event.sequence }
  | terminated (event : ParticipantIncarnationTerminatedEvent)
      (active : ParticipantIncarnationBinding) (hactive : l.activeIncarnation = some active)
      (hpending : l.pendingTermination = none)
      (hdigest : event.payload.incarnationDigest = Canonical.participantIncarnation active) :
      LifecycleEffect l (.participantIncarnationTerminated event)
        { l with
          pendingTermination := some event.payload
          pendingTerminationSequence := some event.sequence
          activeIncarnation := none }
  | restored (event : ParticipantIncarnationRestoredEvent)
      (pending : ParticipantIncarnationTerminatedPayload) (prior : ParticipantIncarnationBinding)
      (recovery : ParticipantIncarnationRecovery)
      (hpending : l.pendingTermination = some pending) (hactive : l.activeIncarnation = none)
      (hprior : l.incarnations.getLast? = some prior)
      (hsound : RestoreSound pending event.payload)
      (hgeneration : event.payload.incarnation.generation = prior.generation + 1)
      (hdisjoint : prior.Disjoint event.payload.incarnation) :
      LifecycleEffect l (.participantIncarnationRestored event)
        { l with
          activeIncarnation := some event.payload.incarnation
          incarnations := l.incarnations ++ [event.payload.incarnation]
          recoveries := l.recoveries ++ [recovery]
          pendingTermination := none
          pendingTerminationSequence := none }
  | other (event : RunEvent) (hnone : event.incarnation? = none)
      (hterminated : ∀ e, event ≠ .participantIncarnationTerminated e) :
      LifecycleEffect l event l

lemma LifecycleEffect.of_step (h : lifecycleStep l event = .ok l') :
    LifecycleEffect l event l' := by
  cases event with
  | participantIncarnationStarted e =>
    simp only [lifecycleStep, bind_eq_ok, raiseIf_eq_ok, exists_const, pure_eq_ok, not_or, not_not,
      Option.not_isSome_iff_eq_none] at h
    obtain ⟨⟨hnone, hactive, hpending⟩, hzero, rfl⟩ := h
    have heffect := LifecycleEffect.started e hnone hactive hpending hzero
    simpa [hnone] using heffect
  | participantIncarnationTerminated e =>
    simp only [lifecycleStep] at h
    split at h
    · rename_i active hactive hpending
      simp only [bind_eq_ok, raiseIf_eq_ok, exists_const, pure_eq_ok, not_not] at h
      obtain ⟨hdigest, rfl⟩ := h
      exact .terminated e active hactive hpending hdigest
    · cases h
  | participantIncarnationRestored e =>
    simp only [lifecycleStep] at h
    split at h
    · rename_i pending sequence prior hpending hsequence hactive hprior
      simp only [bind_eq_ok, raiseIf_eq_ok, exists_const, pure_eq_ok, not_or, not_not] at h
      obtain ⟨⟨-, hpredecessor, hcheckpoint, hmanifest, hgeneration, hprocess, hworkspace,
        hdirectory⟩, -, hrestored, rfl⟩ := h
      refine .restored e pending prior _ hpending hactive hprior
        ⟨hpredecessor, hcheckpoint, hmanifest, hrestored⟩ hgeneration ⟨?_, ?_, ?_⟩
      · intro heq
        exact hprocess (by rw [heq])
      · exact Ne.symm hworkspace
      · exact Ne.symm hdirectory
    · cases h
  | _ =>
    cases h
    exact .other _ rfl (by simp)

/-- Once there is a generation, one is active or waits to be restored. -/
def ParticipantIncarnationLifecycle.Connected (l : ParticipantIncarnationLifecycle) : Prop :=
  l.incarnations = [] ↔ l.activeIncarnation = none ∧ l.pendingTermination = none

/-- The projection agrees with the journal it was computed from. -/
structure ParticipantIncarnationLifecycle.Projects (l : ParticipantIncarnationLifecycle)
    (events : List RunEvent) : Prop where
  incarnations : l.incarnations = incarnationsOf events
  generations : l.incarnations.map ParticipantIncarnationBinding.generation =
    List.range l.incarnations.length
  disjoint : l.incarnations.IsChain ParticipantIncarnationBinding.Disjoint
  active : activeIncarnations events = l.activeIncarnation.toList
  connected : l.Connected

lemma projects_initial : ({} : ParticipantIncarnationLifecycle).Projects [] where
  incarnations := rfl
  generations := rfl
  disjoint := List.IsChain.nil
  active := rfl
  connected := by simp [ParticipantIncarnationLifecycle.Connected]

lemma incarnationsOf_concat :
    incarnationsOf (events ++ [event]) = incarnationsOf events ++ event.incarnation?.toList := by
  rw [incarnationsOf, List.filterMap_append]
  cases h : event.incarnation? <;> simp [incarnationsOf, h]

lemma activeIncarnations_concat :
    activeIncarnations (events ++ [event]) = activeStep (activeIncarnations events) event := by
  simp [activeIncarnations]

lemma projects_step (h : l.Projects events) (heffect : LifecycleEffect l event l') :
    l'.Projects (events ++ [event]) := by
  cases heffect with
  | started e hnone hactive hpending hzero =>
    have hempty : incarnationsOf events = [] := h.incarnations ▸ hnone
    refine ⟨?_, ?_, List.IsChain.singleton _, ?_, ?_⟩
    · rw [incarnationsOf_concat, hempty]
      rfl
    · simp [hzero]
    · rw [activeIncarnations_concat, h.active, hactive]
      rfl
    · simp [ParticipantIncarnationLifecycle.Connected]
  | terminated e active hactive hpending hdigest =>
    refine ⟨?_, h.generations, h.disjoint, ?_, ?_⟩
    · rw [incarnationsOf_concat, ← h.incarnations]
      simp [RunEvent.incarnation?]
    · rw [activeIncarnations_concat, h.active, hactive]
      simp [activeStep, hdigest]
    · have hne : l.incarnations ≠ [] := by
        intro hnil
        rw [(h.connected.mp hnil).1] at hactive
        cases hactive
      simp [ParticipantIncarnationLifecycle.Connected, hne]
  | restored e pending prior recovery hpending hactive hprior hsound hgeneration hdisjoint =>
    refine ⟨?_, ?_, ?_, ?_, ?_⟩
    · rw [incarnationsOf_concat, ← h.incarnations]
      rfl
    · have hlast : prior.generation + 1 = l.incarnations.length := by
        obtain ⟨before, hbefore⟩ := List.getLast?_eq_some_iff.mp hprior
        have hgen := h.generations
        rw [hbefore, List.length_append, List.length_singleton, List.range_succ,
          List.map_append] at hgen
        have hprior' := (List.append_inj' hgen rfl).2
        rw [hbefore, List.length_append, List.length_singleton]
        simpa using hprior'
      simp only [List.map_append, h.generations, List.map_cons, List.map_nil, hgeneration, hlast,
        List.length_append, List.length_singleton, List.range_succ]
    · refine List.isChain_append.mpr ⟨h.disjoint, List.IsChain.singleton _, ?_⟩
      intro x hx y hy
      rw [hprior] at hx
      cases hx
      cases hy
      exact hdisjoint
    · rw [activeIncarnations_concat, h.active, hactive]
      rfl
    · simp [ParticipantIncarnationLifecycle.Connected]
  | other _ hnone hterminated =>
    refine ⟨?_, h.generations, h.disjoint, ?_, h.connected⟩
    · rw [incarnationsOf_concat, hnone, ← h.incarnations]
      simp
    · have hkeep : activeStep (activeIncarnations events) event = activeIncarnations events := by
        cases event with
        | participantIncarnationTerminated e => exact absurd rfl (hterminated e)
        | _ => simp_all [activeStep, RunEvent.incarnation?]
      rw [activeIncarnations_concat, hkeep, h.active]

theorem lifecycle_projects (h : participantIncarnationLifecycle events = .ok l) :
    l.Projects events := by
  simp only [participantIncarnationLifecycle, bind_eq_ok, raiseIf_eq_ok, exists_const,
    pure_eq_ok] at h
  obtain ⟨l, hfold, -, -, -, rfl⟩ := h
  refine foldSteps_induction (P := fun events l => l.Projects events) ?_ projects_initial hfold
  intro _ m event m' hm hstep
  exact projects_step hm (.of_step hstep)

/-- The projection of a longer journal is one more step of the shorter one's. -/
lemma lifecycle_step (h : participantIncarnationLifecycle events = .ok l)
    (h' : participantIncarnationLifecycle (events ++ [event]) = .ok l') :
    lifecycleStep l event = .ok l' := by
  simp only [participantIncarnationLifecycle, bind_eq_ok, raiseIf_eq_ok, exists_const, pure_eq_ok,
    foldSteps_concat_eq_ok] at h h'
  obtain ⟨m, hm, -, -, -, rfl⟩ := h
  obtain ⟨m', ⟨m₀, hm₀, hstep⟩, -, -, -, rfl⟩ := h'
  obtain rfl := Except.ok.inj (hm.symm.trans hm₀)
  exact hstep

end Projection

/-! ### Along an accepted journal -/

section Replayed

variable {header : RunHeader} {task : TaskSpec} {st : ReplayState} {event : RunEvent}
  {events : List RunEvent} {l : ParticipantIncarnationLifecycle}

/-- While an incarnation waits to be restored, its termination is the last event. -/
lemma last_of_pending (h : replayLoop header task events = .ok st)
    (hl : participantIncarnationLifecycle events = .ok l)
    {terminated : ParticipantIncarnationTerminatedPayload}
    (hpending : l.pendingTermination = some terminated) :
    ∃ event, events.getLast? = some (.participantIncarnationTerminated event) ∧
      event.payload = terminated := by
  obtain rfl := replayLoop_prior h
  refine replayLoop_induction (P := fun st => ∀ l,
    participantIncarnationLifecycle st.prior = .ok l → l.pendingTermination = some terminated →
      ∃ event, st.prior.getLast? = some (.participantIncarnationTerminated event) ∧
        event.payload = terminated) ?_ ?_ h l hl hpending
  · intro l hl hpending
    cases hl
    cases hpending
  · intro st event l₀ _ hadm l hl hpending
    have heffect := LifecycleEffect.of_step (lifecycle_step hadm.envelope.lifecycle_eq hl)
    -- a pending termination admits only the restoration, which ends it
    have hrestore := hadm.envelope.restore_first
    rw [ReplayState.prior_apply, List.getLast?_concat]
    cases heffect with
    | started e _ _ hnone =>
      rw [hnone] at hpending
      cases hpending
    | terminated e =>
      cases hpending
      exact ⟨e, rfl, rfl⟩
    | restored => cases hpending
    | other _ hnone =>
      rw [hpending] at hrestore
      refine absurd ⟨rfl, ?_⟩ hrestore
      cases event <;> first | rfl | cases hnone

/-- The converse: a termination leaves its incarnation waiting. -/
lemma pending_of_last {terminated : ParticipantIncarnationTerminatedEvent}
    {l₀ : ParticipantIncarnationLifecycle} (hl₀ : participantIncarnationLifecycle events = .ok l₀)
    (hl : participantIncarnationLifecycle
      (events ++ [.participantIncarnationTerminated terminated]) = .ok l) :
    l.pendingTermination = some terminated.payload := by
  cases LifecycleEffect.of_step (lifecycle_step hl₀ hl) with
  | terminated => rfl
  | other _ _ hne => exact absurd rfl (hne terminated)

/-- The checkpoints of the replay state are those of the journal. -/
structure ReplayState.CheckpointsRecorded (st : ReplayState) : Prop where
  ids : st.checkpoints = (checkpointsOf st.prior).map fun c => c.payload.checkpointId
  events : ∀ c ∈ checkpointsOf st.prior,
    st.checkpointEvents.get? c.payload.checkpointId = some c

lemma checkpointsOf_concat :
    checkpointsOf (events ++ [event]) = checkpointsOf events ++ event.checkpoint?.toList := by
  rw [checkpointsOf, List.filterMap_append]
  cases h : event.checkpoint? <;> simp [checkpointsOf, h]

lemma checkpointsRecorded_frame (h : st.CheckpointsRecorded) (hevent : event.checkpoint? = none)
    (hids : (st.apply header event).checkpoints = st.checkpoints)
    (hevents : (st.apply header event).checkpointEvents = st.checkpointEvents) :
    (st.apply header event).CheckpointsRecorded := by
  have hprior : checkpointsOf (st.apply header event).prior = checkpointsOf st.prior := by
    rw [ReplayState.prior_apply, checkpointsOf_concat, hevent, Option.toList_none,
      List.append_nil]
  refine ⟨?_, ?_⟩
  · rw [hids, hprior]
    exact h.ids
  · rw [hevents, hprior]
    exact h.events

lemma checkpointsRecorded_apply (h : st.CheckpointsRecorded)
    (hadm : Admitted header task st event l) : (st.apply header event).CheckpointsRecorded := by
  cases event
  case checkpointCommitted e =>
    have hk : CheckpointCommittedAdmitted st e := hadm.kind
    have hconcat : checkpointsOf (st.apply header (.checkpointCommitted e)).prior =
        checkpointsOf st.prior ++ [e] := checkpointsOf_concat
    refine ⟨?_, ?_⟩
    · rw [hconcat, List.map_append, ← h.ids]
      rfl
    · intro c hc
      rw [hconcat, List.mem_append, List.mem_singleton] at hc
      have hget : (st.apply header (.checkpointCommitted e)).checkpointEvents =
        st.checkpointEvents.insert e.payload.checkpointId e := rfl
      rw [hget, Dict.get?_insert]
      rcases hc with hc | rfl
      · have hne : c.payload.checkpointId ≠ e.payload.checkpointId := by
          intro heq
          apply hk.fresh
          rw [h.ids, ← heq]
          exact List.mem_map_of_mem hc
        rw [if_neg hne]
        exact h.events c hc
      · rw [if_pos rfl]
  all_goals exact checkpointsRecorded_frame h rfl rfl rfl

lemma replayLoop_checkpointsRecorded (h : replayLoop header task events = .ok st) :
    st.CheckpointsRecorded := by
  refine replayLoop_induction (P := ReplayState.CheckpointsRecorded) ⟨rfl, ?_⟩ ?_ h
  · intro c hc
    cases hc
  · intro st event l hst hadm
    exact checkpointsRecorded_apply hst hadm

lemma nothingOpen_of_quiescent (h : replayLoop header task events = .ok st)
    (hq : st.Quiescent) : NothingOpen events := by
  obtain rfl := replayLoop_prior h
  have htracked := replayLoop_tracked h
  have hnone : ∀ {ν : Type} {b : Bracket RunEvent Identifier ν} {seen : Identifier → Prop}
      {table : Identifier → Option ν}, b.Tracks st.prior seen table → (∀ k, table k = none) →
      ∀ k v, ¬ b.Pending st.prior k v := by
    intro ν b seen table ht hempty k v hp
    have hsome := (ht.table_iff k v).mpr hp
    rw [hempty k] at hsome
    cases hsome
  exact ⟨hnone htracked.evaluations (Dict.isEmpty_iff.mp hq.jobs),
    hnone htracked.leases (Dict.isEmpty_iff.mp hq.leases),
    hnone htracked.providers (openProviderRequest_eq_none hq.providers),
    hnone htracked.tools (openToolRequest_eq_none hq.tools),
    hnone htracked.dispatches (openDispatch_eq_none hq.dispatches)⟩

lemma terminationSound_of_admitted {e : ParticipantIncarnationTerminatedEvent}
    (h : replayLoop header task events = .ok st)
    (hadm : Admitted header task st (.participantIncarnationTerminated e) l) :
    TerminationSound events e.payload := by
  have hk : IncarnationTerminatedAdmitted l st e := hadm.kind
  have hl := hadm.envelope.lifecycle_eq
  rw [replayLoop_prior h] at hl
  have hcheckpoints := replayLoop_checkpointsRecorded h
  refine ⟨?_, ?_, nothingOpen_of_quiescent h hk.quiescent⟩
  · obtain ⟨active, hactive, hdigest⟩ := Option.map_eq_some_iff.mp hk.active
    refine ⟨active, ?_, hdigest.symm⟩
    rw [(lifecycle_projects hl).active, hactive, Option.toList_some]
  · have hlatest := hk.latest
    rw [hcheckpoints.ids, List.getLast?_map, Option.map_eq_some_iff, replayLoop_prior h] at hlatest
    obtain ⟨checkpoint, hlast, hid⟩ := hlatest
    refine ⟨checkpoint, hlast, hid.symm, ?_⟩
    have hget := hcheckpoints.events checkpoint
      (by rw [replayLoop_prior h]; exact List.mem_of_getLast? hlast)
    have hmanifest := hk.manifest
    rw [← hid, hget] at hmanifest
    exact (Option.some.inj hmanifest).symm

end Replayed

/-- A restore directly follows the termination it answers. -/
lemma restored_of_admitted {header : RunHeader} {task : TaskSpec} {st : ReplayState}
    {l : ParticipantIncarnationLifecycle} {events : List RunEvent}
    {e : ParticipantIncarnationRestoredEvent} (h : replayLoop header task events = .ok st)
    (hadm : Admitted header task st (.participantIncarnationRestored e) l) :
    ∃ termination, events.getLast? = some (.participantIncarnationTerminated termination) ∧
      RestoreSound termination.payload e.payload := by
  have hk : IncarnationRestoredAdmitted l st e := hadm.kind
  have hl := hadm.envelope.lifecycle_eq
  obtain ⟨l', hchain⟩ := hk.chain
  cases LifecycleEffect.of_step (lifecycle_step hl hchain) with
  | restored _ pending _ _ hpending _ _ hsound =>
    rw [replayLoop_prior h] at hl
    obtain ⟨termination, hlast, rfl⟩ := last_of_pending h hl hpending
    exact ⟨termination, hlast, hsound⟩
  | other _ hnone => cases hnone

lemma incarnation?_of_started {event : RunEvent} (h : event.isIncarnationStarted = true) :
    event.incarnation? ≠ none := by
  cases event with
  | participantIncarnationStarted e => simp [RunEvent.incarnation?]
  | _ => cases h

/-- In a campaign or preflight run the second event brings up an incarnation. -/
lemma incarnationsOf_ne_nil {header : RunHeader} {task : TaskSpec} {st : ReplayState}
    {events : List RunEvent} {i : Nat} (h : replayLoop header task events = .ok st)
    (hpurpose : header.binding.purpose ≠ .standard) (hi : 2 ≤ i) (hlt : i < events.length) :
    incarnationsOf (events.take i) ≠ [] := by
  intro hempty
  have hone : events[1]? = some events[1] := List.getElem?_eq_getElem (by omega)
  obtain ⟨st₁, _, hst₁, hadm⟩ := replayLoop_admitted h hone
  have hfirst := hadm.envelope.incarnation_first
  rw [replayLoop_prior hst₁, List.length_take, Nat.min_eq_left (by omega)] at hfirst
  have hstarted : (events[1]).isIncarnationStarted = true := by
    by_contra hno
    exact hfirst ⟨rfl, hpurpose, by simpa using hno⟩
  refine incarnation?_of_started hstarted (List.filterMap_eq_nil_iff.mp hempty _ ?_)
  exact List.mem_take_iff_getElem.mpr ⟨1, by omega, rfl⟩

/-- Incarnation chain: the controller generations of an accepted journal follow one another, each
terminated at rest and restored at once from the checkpoint named. -/
theorem replay_incarnationChain (header : RunHeader) (task : TaskSpec) (events : List RunEvent)
    (state : RunState) (h : replay header task events = .ok state) :
    IncarnationChain header events := by
  obtain ⟨-, -, st, l, hloop, hl, -, -⟩ := replay_eq_ok_iff.mp h
  have hprojects := lifecycle_projects hl
  have hterminated : ∀ i event, events[i]? = some (.participantIncarnationTerminated event) →
      TerminationSound (events.take i) event.payload := by
    intro i event he
    obtain ⟨st', l', hst', hadm⟩ := replayLoop_admitted hloop he
    exact terminationSound_of_admitted hst' hadm
  refine ⟨?_, ?_, hterminated, ?_, ?_, ?_⟩
  · rw [← hprojects.incarnations]
    exact hprojects.generations
  · rw [← hprojects.incarnations]
    exact hprojects.disjoint
  · intro i event he
    rcases hnext : events[i + 1]? with _ | next
    · have hlt := (List.getElem?_eq_some_iff.mp he).1
      have hle := List.getElem?_eq_none_iff.mp hnext
      exact Or.inl (by omega)
    · obtain ⟨st', l', hst', hadm⟩ := replayLoop_admitted hloop hnext
      have hl' := hadm.envelope.lifecycle_eq
      obtain ⟨_, l₀, hst₀, hadm₀⟩ := replayLoop_admitted hloop he
      have hl₀ := hadm₀.envelope.lifecycle_eq
      rw [replayLoop_prior hst', List.take_add_one, he, Option.toList_some] at hl'
      rw [replayLoop_prior hst₀] at hl₀
      have hpending := pending_of_last hl₀ hl'
      have hrestore := hadm.envelope.restore_first
      rw [hpending] at hrestore
      cases next with
      | participantIncarnationRestored restore =>
        obtain ⟨termination, hlast, hsound⟩ := restored_of_admitted hst' hadm
        rw [List.take_add_one, he, Option.toList_some, List.getLast?_concat] at hlast
        cases hlast
        exact Or.inr ⟨restore, rfl, hsound⟩
      | _ => exact absurd ⟨rfl, rfl⟩ hrestore
  · intro i event he
    obtain ⟨st', l', hst', hadm⟩ := replayLoop_admitted hloop he
    obtain ⟨termination, hlast, hsound⟩ := restored_of_admitted hst' hadm
    cases i with
    | zero => cases hlast
    | succ j =>
      have hlt := (List.getElem?_eq_some_iff.mp he).1
      have hj : events[j]? = some (.participantIncarnationTerminated termination) := by
        rw [List.take_add_one, List.getElem?_eq_getElem (by omega), Option.toList_some,
          List.getLast?_concat] at hlast
        rw [List.getElem?_eq_getElem (by omega), hlast]
      obtain ⟨checkpoint, hlatest, -, hmanifest⟩ := (hterminated j termination hj).checkpoint
      exact ⟨j, termination, checkpoint, rfl, hj, hsound, hlatest,
        hsound.restoredManifest.trans hmanifest⟩
  · intro hpurpose i event hi he hrestored
    obtain ⟨st', l', hst', hadm⟩ := replayLoop_admitted hloop he
    have hl' := hadm.envelope.lifecycle_eq
    rw [replayLoop_prior hst'] at hl'
    have hprojects' := lifecycle_projects hl'
    have hpending : l'.pendingTermination = none := by
      by_contra hne
      exact hadm.envelope.restore_first ⟨Option.isSome_iff_ne_none.mpr hne, hrestored⟩
    have hactive : l'.activeIncarnation ≠ none := by
      intro hnone
      have hempty := hprojects'.connected.mpr ⟨hnone, hpending⟩
      rw [hprojects'.incarnations] at hempty
      exact incarnationsOf_ne_nil hloop hpurpose hi (List.getElem?_eq_some_iff.mp he).1 hempty
    obtain ⟨active, hsome⟩ := Option.ne_none_iff_exists'.mp hactive
    refine ⟨active, ?_⟩
    rw [hprojects'.active, hsome, Option.toList_some]

end Journal

section SmallRun

local instance incarnationCanonical : Canonical := plainCanonical

/-- Generation `n` of a participant, with its own process and directories. -/
def generation (n : Nat) : ParticipantIncarnationBinding where
  generation := n
  process := { processId := n, startTimeTicks := n, bootIdDigest := "boot" }
  workspaceIdentityDigest := "workspace:" ++ toString n
  artifactDirectoryIdentityDigest := "artifacts:" ++ toString n

def checkpointedBase (n : Nat) : EventBase where
  runId := "run:t0"
  sequence := n
  eventId := n
  timestamp := n
  producer := .controller
  visibility := .verifier
  artifactRefs := ["a0"]

/-- The first generation is replaced from a checkpoint. -/
def restoredRun : List RunEvent :=
  [.runStarted {
     toEventBase := gateBase 0 .controller
     payload := { bindingDigest := "run:t0" } },
   .participantIncarnationStarted {
     toEventBase := gateBase 1 .controller
     payload := { incarnation := generation 0 } },
   .artifactRecorded {
     toEventBase := gateBase 2 .controller
     payload := { record := {
       logicalId := "a0", blob := { digest := "d-a0", sizeBytes := 1 }
       mediaType := "application/octet-stream", artifactClass := .checkpoint
       sensitivity := .internal, visibility := .verifier, redistribution := .forbidden } } },
   .checkpointCommitted {
     toEventBase := checkpointedBase 3
     payload := { checkpointId := "k0", manifestDigest := "d-k0" } },
   .participantIncarnationTerminated {
     toEventBase := gateBase 4 .controller
     payload := { incarnationDigest := "incarnation:0", checkpointId := "k0"
                  checkpointManifestDigest := "d-k0" } },
   .participantIncarnationRestored {
     toEventBase := gateBase 5 .controller
     payload := { predecessorIncarnationDigest := "incarnation:0", incarnation := generation 1
                  checkpointId := "k0", checkpointManifestDigest := "d-k0"
                  restoredManifestDigest := "d-k0", restored_eq := rfl } }]

theorem restoredRun_chain :
    incarnationsOf restoredRun = [generation 0, generation 1] ∧
      IncarnationChain gateHeader restoredRun := by
  have h : (replay gateHeader gateTask restoredRun).isOk = true := by decide +kernel
  obtain ⟨state, hstate⟩ := Except.exists_of_isOk h
  exact ⟨rfl, replay_incarnationChain gateHeader gateTask restoredRun state hstate⟩

end SmallRun

end EdaGym
