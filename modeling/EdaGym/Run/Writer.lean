import EdaGym.Run.Terminal
import Mathlib.Logic.Relation

/-!
# The single writer of a run

At every point of a journal one actor holds the workspace: the initial writer, replaced at each
transfer of control. The replay admits participant work and provider requests only under that
actor.
-/

namespace EdaGym

section Journal

variable [Canonical]

/-- The writer left by one event. -/
def nextWriter (writer : Identifier) : RunEvent → Identifier
  | .controlTransferred event => event.payload.nextWriter
  | _ => writer

/-- The writer after a journal: the initial one, updated by the transfers of control. -/
def writerAfter (header : RunHeader) (events : List RunEvent) : Identifier :=
  events.foldl nextWriter header.binding.session.initialWriter

/-- The record of a candidate submitted by `actor`. -/
def CandidateSubmittedPayload.recordedBy (p : CandidateSubmittedPayload) (actor : Identifier) :
    CandidateState where
  candidateId := p.candidateId
  digest := p.candidateDigest
  parentCandidateId := p.parentCandidateId
  actor := actor

/-- The journal submits a candidate at position `i`. -/
def SubmittedAt (events : List RunEvent) (i : Nat) (event : CandidateSubmittedEvent) : Prop :=
  events[i]? = some (.candidateSubmitted event)

/-- The journal links the candidate `child` to its parent. -/
def ParentLink (events : List RunEvent) (child parent : Identifier) : Prop :=
  ∃ i event, SubmittedAt events i event ∧ event.payload.candidateId = child ∧
    event.payload.parentCandidateId = some parent

/-- Only the writer of the moment acts; `state` is what the journal replays to. -/
structure SingleWriter (header : RunHeader) (events : List RunEvent) (state : RunState) :
    Prop where
  bound : ∀ i ≤ events.length, writerAfter header (events.take i) ∈ header.actorIds
  participant : ∀ i event, events[i]? = some event → event.base.producer = .participant →
    event.base.actor = some (writerAfter header (events.take i))
  transfer : ∀ i event, events[i]? = some (.controlTransferred event) →
    event.actor = some (writerAfter header (events.take i))
  submission : ∀ i event, SubmittedAt events i event →
    event.actor = some (writerAfter header (events.take i))
  provider : ∀ i event, events[i]? = some (.providerRequestStarted event) →
    event.payload.actorId = writerAfter header (events.take i) ∧
    ∃ harness scaffold, .harness (writerAfter header (events.take i)) harness scaffold
      event.payload.requestedModel ∈ header.binding.session.actors
  recorded : ∀ candidate, candidate ∈ state.candidates ↔ ∃ i event, SubmittedAt events i event ∧
    candidate = event.payload.recordedBy (writerAfter header (events.take i))
  submittedOnce : ∀ i j event event', SubmittedAt events i event → SubmittedAt events j event' →
    event.payload.candidateId = event'.payload.candidateId → i = j
  parent : ∀ i event, SubmittedAt events i event →
    ∀ parent ∈ event.payload.parentCandidateId, ∃ j < i, ∃ earlier,
      SubmittedAt events j earlier ∧ earlier.payload.candidateId = parent
  acyclic : ∀ candidateId, ¬ Relation.TransGen (ParentLink events) candidateId candidateId
  handoff : header.binding.session.handoffEnabled = false →
    ∀ event, .controlTransferred event ∉ events
  final : state.currentWriter = writerAfter header events

section Writer

variable {header : RunHeader} {task : TaskSpec} {st : ReplayState} {event : RunEvent}
  {events : List RunEvent} {lifecycle : ParticipantIncarnationLifecycle}

lemma writerAfter_concat (events : List RunEvent) (event : RunEvent) :
    writerAfter header (events ++ [event]) = nextWriter (writerAfter header events) event := by
  simp [writerAfter]

lemma currentWriter_apply (event : RunEvent) :
    (st.apply header event).currentWriter = nextWriter st.currentWriter event := by
  cases event <;> rfl

/-- The replay keeps the writer that the transfers leave. -/
lemma replayLoop_writer (h : replayLoop header task events = .ok st) :
    st.currentWriter = writerAfter header events := by
  rw [← replayLoop_prior h]
  refine replayLoop_induction (P := fun st => st.currentWriter = writerAfter header st.prior)
    rfl ?_ h
  intro st event _ hst _
  rw [currentWriter_apply, ReplayState.prior_apply, writerAfter_concat, hst]

lemma nextWriter_bound (h : st.currentWriter ∈ header.actorIds)
    (hadm : Admitted header task st event lifecycle) :
    nextWriter st.currentWriter event ∈ header.actorIds := by
  cases event
  case controlTransferred e =>
    have hk : ControlTransferredAdmitted header st e := hadm.kind
    exact hk.next
  all_goals exact h

lemma replayLoop_writer_bound (h : replayLoop header task events = .ok st) :
    writerAfter header events ∈ header.actorIds := by
  rw [← replayLoop_writer h]
  refine replayLoop_induction (P := fun st => st.currentWriter ∈ header.actorIds)
    header.binding.session.writer_bound ?_ h
  intro st event lifecycle hst hadm
  rw [currentWriter_apply]
  exact nextWriter_bound hst hadm

/-- The writer rule, whichever branch of the replay checks it. -/
lemma actor_of_participant (hadm : Admitted header task st event lifecycle)
    (hp : event.base.producer = .participant) : event.base.actor = some st.currentWriter := by
  have hproducer := hadm.envelope.producer
  simp only [validateEventProducer, bind_eq_ok, raiseIf_eq_ok, exists_const, not_not,
    hp] at hproducer
  have hallowed := hproducer.1
  have hkind := hadm.kind
  cases event
  case interactionRecorded e =>
    have hk : InteractionAdmitted st e := hkind
    exact hk.writer hp
  case controlTransferred e =>
    have hk : ControlTransferredAdmitted header st e := hkind
    exact hk.actor
  case candidateSubmitted e =>
    have hk : CandidateSubmittedAdmitted st e := hkind
    exact hk.actor
  case runEnded e =>
    have hk : RunEndedAdmitted header task lifecycle st e := hkind
    exact hk.writer hp
  all_goals simp [allowedProducers] at hallowed

lemma harness_of_route {actorId : Identifier} {route : ModelLabel}
    (h : header.harnessRoute? actorId = some route) :
    ∃ harness scaffold,
      .harness actorId harness scaffold route ∈ header.binding.session.actors := by
  obtain ⟨actor, hactor, hroute⟩ := List.exists_of_findSome?_eq_some h
  cases actor with
  | human id adapter => cases hroute
  | harness id harness scaffold route' =>
    dsimp only at hroute
    split_ifs at hroute with hid
    cases hroute
    cases hid
    exact ⟨harness, scaffold, hactor⟩

/-! ### Candidates -/

omit [Canonical] in
lemma getElem?_concat_eq_some {α : Type} {as : List α} {a b : α} {i : Nat} :
    (as ++ [a])[i]? = some b ↔ as[i]? = some b ∨ i = as.length ∧ b = a := by
  rw [List.getElem?_append]
  by_cases hi : i < as.length
  · rw [if_pos hi]
    constructor
    · exact Or.inl
    · rintro (h | ⟨rfl, -⟩)
      · exact h
      · exact absurd hi (Nat.lt_irrefl _)
  · rw [if_neg hi, List.getElem?_singleton]
    have hnone : as[i]? = none := List.getElem?_eq_none (Nat.le_of_not_lt hi)
    rw [hnone]
    split_ifs with h0
    · have : i = as.length := by omega
      simp [this, eq_comm]
    · have : i ≠ as.length := by omega
      simp [this]

variable {e : CandidateSubmittedEvent}

lemma SubmittedAt.lt {i : Nat} (h : SubmittedAt events i e) : i < events.length :=
  (List.getElem?_eq_some_iff.mp h).1

lemma SubmittedAt.concat_iff {i : Nat} :
    SubmittedAt (events ++ [event]) i e ↔
      SubmittedAt events i e ∨ i = events.length ∧ event = .candidateSubmitted e := by
  rw [SubmittedAt, getElem?_concat_eq_some, eq_comm (a := event)]
  rfl

/-- The candidates of the replay state are the submissions, each under the writer of its
position. -/
structure ReplayState.SubmissionsRecorded (header : RunHeader) (st : ReplayState) : Prop where
  recorded : ∀ c candidate, st.candidates.get? c = some candidate ↔
    ∃ i event, SubmittedAt st.prior i event ∧ event.payload.candidateId = c ∧
      candidate = event.payload.recordedBy (writerAfter header (st.prior.take i))
  submittedOnce : ∀ i j event event', SubmittedAt st.prior i event →
    SubmittedAt st.prior j event' → event.payload.candidateId = event'.payload.candidateId → i = j

lemma submissionsRecorded_initial : (ReplayState.initial header).SubmissionsRecorded header where
  recorded c candidate := by
    constructor
    · intro h
      cases h
    · rintro ⟨i, e, h, -⟩
      cases h
  submittedOnce := by
    intro i j e e' h
    cases h

lemma ReplayState.SubmissionsRecorded.mem_iff (h : st.SubmissionsRecorded header)
    {c : Identifier} :
    c ∈ st.candidates ↔ ∃ i event, SubmittedAt st.prior i event ∧
      event.payload.candidateId = c := by
  rw [Dict.mem_iff]
  constructor
  · rintro ⟨candidate, hc⟩
    obtain ⟨i, e, hi, hid, -⟩ := (h.recorded c candidate).mp hc
    exact ⟨i, e, hi, hid⟩
  · rintro ⟨i, e, hi, hid⟩
    exact ⟨_, (h.recorded c _).mpr ⟨i, e, hi, hid, rfl⟩⟩

/-- An event that submits nothing keeps the candidates and their positions. -/
lemma submissionsRecorded_frame (h : st.SubmissionsRecorded header)
    (hcandidates : (st.apply header event).candidates = st.candidates)
    (hevent : ∀ e, event ≠ .candidateSubmitted e) :
    (st.apply header event).SubmissionsRecorded header := by
  have hat : ∀ i e, SubmittedAt (st.prior ++ [event]) i e ↔ SubmittedAt st.prior i e := by
    intro i e
    rw [SubmittedAt.concat_iff, or_iff_left]
    rintro ⟨-, he⟩
    exact hevent e he
  refine ⟨?_, ?_⟩
  · intro c candidate
    rw [hcandidates, h.recorded, ReplayState.prior_apply]
    refine exists_congr fun i => exists_congr fun e => ?_
    rw [hat]
    refine and_congr_right fun hi => ?_
    rw [List.take_append_of_le_length hi.lt.le]
  · intro i j e e' hi hj
    rw [ReplayState.prior_apply, hat] at hi hj
    exact h.submittedOnce i j e e' hi hj

lemma submissionsRecorded_submit
    (h : st.SubmissionsRecorded header) (hwriter : st.currentWriter = writerAfter header st.prior)
    (hk : CandidateSubmittedAdmitted st e) :
    (st.apply header (.candidateSubmitted e)).SubmissionsRecorded header := by
  have hfresh : ∀ i e', SubmittedAt st.prior i e' →
      e'.payload.candidateId ≠ e.payload.candidateId := by
    intro i e' hi hid
    exact hk.fresh (h.mem_iff.mpr ⟨i, e', hi, hid⟩)
  refine ⟨?_, ?_⟩
  · intro c candidate
    have hget : (st.apply header (.candidateSubmitted e)).candidates =
        st.candidates.insert e.payload.candidateId (e.payload.recordedBy st.currentWriter) := rfl
    rw [hget, Dict.get?_insert, ReplayState.prior_apply]
    simp only [SubmittedAt.concat_iff]
    split_ifs with hc
    · subst hc
      constructor
      · rintro ⟨⟩
        refine ⟨st.prior.length, e, Or.inr ⟨rfl, rfl⟩, rfl, ?_⟩
        rw [List.take_left, hwriter]
      · rintro ⟨i, e', hi | ⟨rfl, he⟩, hid, rfl⟩
        · exact absurd hid (hfresh i e' hi)
        · cases he
          rw [List.take_left, hwriter]
    · rw [h.recorded]
      constructor
      · rintro ⟨i, e', hi, hid, rfl⟩
        refine ⟨i, e', Or.inl hi, hid, ?_⟩
        rw [List.take_append_of_le_length hi.lt.le]
      · rintro ⟨i, e', hi | ⟨rfl, he⟩, hid, rfl⟩
        · refine ⟨i, e', hi, hid, ?_⟩
          rw [List.take_append_of_le_length hi.lt.le]
        · cases he
          exact absurd hid.symm hc
  · intro i j e₁ e₂ hi hj hid
    rw [ReplayState.prior_apply, SubmittedAt.concat_iff] at hi hj
    rcases hi with hi | ⟨rfl, hi⟩ <;> rcases hj with hj | ⟨rfl, hj⟩
    · exact h.submittedOnce i j e₁ e₂ hi hj hid
    · cases hj
      exact absurd hid (hfresh i e₁ hi)
    · cases hi
      exact absurd hid.symm (hfresh j e₂ hj)
    · rfl

theorem replayLoop_submissionsRecorded (h : replayLoop header task events = .ok st) :
    st.SubmissionsRecorded header := by
  have hboth : st.currentWriter = writerAfter header st.prior ∧
      st.SubmissionsRecorded header := by
    refine replayLoop_induction
      (P := fun st => st.currentWriter = writerAfter header st.prior ∧
        st.SubmissionsRecorded header) ⟨rfl, submissionsRecorded_initial⟩ ?_ h
    rintro st event lifecycle ⟨hwriter, hst⟩ hadm
    refine ⟨?_, ?_⟩
    · rw [currentWriter_apply, ReplayState.prior_apply, writerAfter_concat, hwriter]
    · cases event
      case candidateSubmitted e => exact submissionsRecorded_submit hst hwriter hadm.kind
      all_goals exact submissionsRecorded_frame hst rfl (by simp)
  exact hboth.2

/-- A chain of parent links goes to earlier positions. -/
lemma parentChain_lt
    (once : ∀ i j event event', SubmittedAt events i event → SubmittedAt events j event' →
      event.payload.candidateId = event'.payload.candidateId → i = j)
    (parent : ∀ i event, SubmittedAt events i event →
      ∀ parent ∈ event.payload.parentCandidateId, ∃ j < i, ∃ earlier,
        SubmittedAt events j earlier ∧ earlier.payload.candidateId = parent)
    {child ancestor : Identifier} (h : Relation.TransGen (ParentLink events) child ancestor) :
    ∃ i e j e', SubmittedAt events i e ∧ e.payload.candidateId = child ∧
      SubmittedAt events j e' ∧ e'.payload.candidateId = ancestor ∧ j < i := by
  induction h with
  | single hlink =>
    obtain ⟨i, e, hi, hid, hparent⟩ := hlink
    obtain ⟨j, hj, e', he', hid'⟩ := parent i e hi _ hparent
    exact ⟨i, e, j, e', hi, hid, he', hid', hj⟩
  | tail _ hlink ih =>
    obtain ⟨i, e, j, e', hi, hid, hj, hid', hlt⟩ := ih
    obtain ⟨k, e₁, hk, hid₁, hparent⟩ := hlink
    obtain ⟨l, hl, e₂, he₂, hid₂⟩ := parent k e₁ hk _ hparent
    have hjk : j = k := once j k e' e₁ hj hk (hid'.trans hid₁.symm)
    exact ⟨i, e, l, e₂, hi, hid, he₂, hid₂, by omega⟩

end Writer

/-- Single writer: in an accepted journal only the actor holding the workspace at an event's
position acts at it. -/
theorem replay_singleWriter (header : RunHeader) (task : TaskSpec) (events : List RunEvent)
    (state : RunState) (h : replay header task events = .ok state) :
    SingleWriter header events state := by
  obtain ⟨-, -, st, -, hloop, -, -, rfl⟩ := replay_eq_ok_iff.mp h
  have hrecorded := replayLoop_submissionsRecorded hloop
  have hprior := replayLoop_prior hloop
  have hactor : ∀ i event, events[i]? = some event → event.base.producer = .participant →
      event.base.actor = some (writerAfter header (events.take i)) := by
    intro i event he hp
    obtain ⟨st', _, hst', hadm⟩ := replayLoop_admitted hloop he
    rw [← replayLoop_writer hst']
    exact actor_of_participant hadm hp
  have hparent : ∀ i event, SubmittedAt events i event →
      ∀ parent ∈ event.payload.parentCandidateId, ∃ j < i, ∃ earlier,
        SubmittedAt events j earlier ∧ earlier.payload.candidateId = parent := by
    intro i event he parent hp
    obtain ⟨st', _, hst', hadm⟩ := replayLoop_admitted hloop he
    have hk : CandidateSubmittedAdmitted st' event := hadm.kind
    obtain ⟨j, earlier, hj, hid⟩ :=
      (replayLoop_submissionsRecorded hst').mem_iff.mp (hk.parent parent hp)
    rw [replayLoop_prior hst'] at hj
    have hlt := hj.lt
    rw [List.length_take] at hlt
    refine ⟨j, by omega, earlier, ?_, hid⟩
    rwa [SubmittedAt, List.getElem?_take_of_lt (by omega)] at hj
  have honce : ∀ i j event event', SubmittedAt events i event → SubmittedAt events j event' →
      event.payload.candidateId = event'.payload.candidateId → i = j := by
    have := hrecorded.submittedOnce
    rwa [hprior] at this
  refine ⟨?_, hactor, ?_, ?_, ?_, ?_, honce, hparent, ?_, ?_, replayLoop_writer hloop⟩
  · intro i _
    obtain ⟨_, hst'⟩ := replayLoop_take hloop i
    exact replayLoop_writer_bound hst'
  · intro i event he
    obtain ⟨st', _, hst', hadm⟩ := replayLoop_admitted hloop he
    rw [← replayLoop_writer hst']
    exact (show ControlTransferredAdmitted header st' event from hadm.kind).actor
  · intro i event he
    obtain ⟨st', _, hst', hadm⟩ := replayLoop_admitted hloop he
    rw [← replayLoop_writer hst']
    exact (show CandidateSubmittedAdmitted st' event from hadm.kind).actor
  · intro i event he
    obtain ⟨st', _, hst', hadm⟩ := replayLoop_admitted hloop he
    have hk : ProviderRequestAdmitted header st' event := hadm.kind
    rw [← replayLoop_writer hst', ← hk.writer]
    exact ⟨rfl, harness_of_route hk.route⟩
  · intro candidate
    rw [show (st.runState header).candidates = st.candidates.values from rfl, Dict.mem_values]
    simp only [hrecorded.recorded, hprior]
    constructor
    · rintro ⟨c, i, e, hi, -, hc⟩
      exact ⟨i, e, hi, hc⟩
    · rintro ⟨i, e, hi, hc⟩
      exact ⟨_, i, e, hi, rfl, hc⟩
  · intro c hc
    obtain ⟨i, e, j, e', hi, hid, hj, hid', hlt⟩ := parentChain_lt honce hparent hc
    have : i = j := honce i j e e' hi hj (hid.trans hid'.symm)
    omega
  · intro hoff event he
    obtain ⟨i, hi⟩ := List.mem_iff_getElem?.mp he
    obtain ⟨st', _, _, hadm⟩ := replayLoop_admitted hloop hi
    have hk : ControlTransferredAdmitted header st' event := hadm.kind
    rw [hk.handoff] at hoff
    cases hoff

end Journal

section SmallRun

local instance writerCanonical : Canonical := plainCanonical

theorem passingRun_singleWriter :
    SingleWriter gateHeader (passingRun ++ [.runEnded passingEnd]) passingState :=
  replay_singleWriter gateHeader gateTask (passingRun ++ [.runEnded passingEnd]) passingState
    (by decide +kernel)

end SmallRun

end EdaGym
