import EdaGym.Run.JournalCrash

/-!
# Appending to the run journal

Any number of clients append to one journal, each call under the lock. A batch is either new as a
whole, and then becomes one record, or was committed before, and then changes nothing.
-/

namespace EdaGym

section Journal

variable [Canonical]

def RunEvent.eventId (event : RunEvent) : UUID := event.base.eventId

/-- The events of some commits, in the order of the journal. -/
def eventsOf [JournalDigests] (commits : List RunCommit) : List RunEvent :=
  commits.flatMap RunCommit.events

/-! ### Positions of an accepted journal -/

section Positions

variable {header : RunHeader} {task : TaskSpec} {events : List RunEvent} {st : ReplayState}

lemma replayLoop_sequences (h : replayLoop header task events = .ok st) :
    events.map (fun e => e.base.sequence) = List.range events.length := by
  obtain rfl := replayLoop_prior h
  refine replayLoop_induction (P := fun st =>
    st.prior.map (fun e => e.base.sequence) = List.range st.prior.length) rfl ?_ h
  intro st event l hst hadm
  rw [ReplayState.prior_apply, List.map_append, hst, List.length_append, List.length_singleton,
    List.range_succ, List.map_singleton, hadm.envelope.sequence]

lemma replayLoop_ids_nodup (h : replayLoop header task events = .ok st) :
    (events.map RunEvent.eventId).Nodup := by
  obtain rfl := replayLoop_prior h
  refine replayLoop_induction (P := fun st => (st.prior.map RunEvent.eventId).Nodup)
    List.nodup_nil ?_ h
  intro st event l hst hadm
  rw [ReplayState.prior_apply, List.map_append, List.nodup_append_comm, List.map_singleton,
    List.singleton_append, List.nodup_cons]
  exact ⟨hadm.envelope.fresh, hst⟩

lemma replay_sequences {state : RunState} (h : replay header task events = .ok state) :
    events.map (fun e => e.base.sequence) = List.range events.length := by
  obtain ⟨-, -, st, -, hloop, -⟩ := replay_eq_ok_iff.mp h
  exact replayLoop_sequences hloop

lemma replay_ids_nodup {state : RunState} (h : replay header task events = .ok state) :
    (events.map RunEvent.eventId).Nodup := by
  obtain ⟨-, -, st, -, hloop, -⟩ := replay_eq_ok_iff.mp h
  exact replayLoop_ids_nodup hloop

end Positions

/-! ### Which batches are admitted -/

variable [JournalDigests] [CommitCodec]

/-- The two ways in which a batch is accepted after the committed events. -/
inductive AppendAdmitted (header : RunHeader) (task : TaskSpec)
    (requested committed : List RunEvent) : RunState → Bool → Prop
  | repeated (state : RunState) (distinct : (requested.map RunEvent.eventId).Nodup)
      (known : ∃ e ∈ requested, e.eventId ∈ committed.map RunEvent.eventId)
      (same : ∀ e ∈ requested, ∃ c,
        (Dict.ofList (committed.map fun c => (c.eventId, c))).get? e.eventId = some c ∧
          eventBytes c = eventBytes e)
      (replayed : replay header task committed = .ok state) :
      AppendAdmitted header task requested committed state false
  | fresh (state before : RunState) (distinct : (requested.map RunEvent.eventId).Nodup)
      (unknown : ∀ e ∈ requested, e.eventId ∉ committed.map RunEvent.eventId)
      (positions : OwnPositions committed requested)
      (committed_ok : replay header task committed = .ok before)
      (live : before.terminalReason = none)
      (replayed : replay header task (committed ++ requested) = .ok state) :
      AppendAdmitted header task requested committed state true

section Admission

variable {header : RunHeader} {task : TaskSpec} {requested committed : List RunEvent}
  {state : RunState}

omit [JournalDigests] [CommitCodec] in
lemma mem_committedById {id : UUID} :
    id ∈ Dict.ofList (committed.map fun c => (c.eventId, c)) ↔
      id ∈ committed.map RunEvent.eventId := by
  rw [Dict.mem_ofList, List.map_map]
  rfl

theorem admitAppend_eq_ok_iff {new : Bool} :
    admitAppend header task requested committed = .ok (state, new) ↔
      AppendAdmitted header task requested committed state new := by
  rw [admitAppend]
  simp only [bind_eq_ok, raiseIf_eq_ok, exists_const, not_not]
  change _ ∧ (if ∃ e ∈ requested, e.eventId ∈
    Dict.ofList (committed.map fun c => (c.eventId, c)) then _ else _) = _ ↔ _
  by_cases hknown : ∃ e ∈ requested, e.eventId ∈
      Dict.ofList (committed.map fun c => (c.eventId, c))
  · rw [if_pos hknown]
    simp only [bind_eq_ok, raiseIf_eq_ok, exists_const, pure_eq_ok, Prod.mk.injEq]
    constructor
    · rintro ⟨hdistinct, hall, hsame, _, hreplay, rfl, rfl⟩
      refine .repeated _ hdistinct ?_ ?_ hreplay
      · simpa only [mem_committedById] using hknown
      · intro e he
        have hmem : e.eventId ∈ Dict.ofList (committed.map fun c => (c.eventId, c)) := by
          by_contra hno
          exact hall ⟨e, he, hno⟩
        obtain ⟨c, hc⟩ := Dict.mem_iff.mp hmem
        refine ⟨c, hc, ?_⟩
        by_contra hne
        refine hsame ⟨e, he, ?_⟩
        change ((Dict.ofList (committed.map fun c => (c.eventId, c))).get? e.eventId).map _ ≠ _
        rw [hc]
        simpa using hne
    · intro h
      cases h with
      | repeated hdistinct _ hsame hreplay =>
        refine ⟨hdistinct, ?_, ?_, state, hreplay, rfl, rfl⟩
        · rintro ⟨e, he, hno⟩
          obtain ⟨c, hc, -⟩ := hsame e he
          exact hno (Dict.mem_of_get? hc)
        · rintro ⟨e, he, hne⟩
          obtain ⟨c, hc, hbytes⟩ := hsame e he
          apply hne
          change ((Dict.ofList (committed.map fun c => (c.eventId, c))).get? e.eventId).map _ = _
          rw [hc, Option.map_some, hbytes]
      | fresh _ _ hunknown =>
        obtain ⟨e, he, hmem⟩ := hknown
        exact absurd (mem_committedById.mp hmem) (hunknown e he)
  · rw [if_neg hknown]
    simp only [bind_eq_ok, raiseIf_eq_ok, exists_const, pure_eq_ok, Prod.mk.injEq, not_not]
    constructor
    · rintro ⟨hdistinct, hpositions, before, hbefore, hlive, _, hreplay, rfl, rfl⟩
      refine .fresh _ before hdistinct ?_ hpositions hbefore hlive hreplay
      intro e he hmem
      exact hknown ⟨e, he, mem_committedById.mpr hmem⟩
    · intro h
      cases h with
      | repeated _ hknown' =>
        obtain ⟨e, he, hmem⟩ := hknown'
        exact absurd ⟨e, he, mem_committedById.mpr hmem⟩ hknown
      | fresh before hdistinct _ hpositions hbefore hlive hreplay =>
        exact ⟨hdistinct, hpositions, before, hbefore, hlive, _, hreplay, rfl, rfl⟩

end Admission

/-! ### Calls on a file of commits -/

section Calls

variable {header : RunHeader} {task : TaskSpec} {committed : List RunCommit} {torn file : Bytes}
  {disk : Disk}

section Locked

variable {decision : DurablePrefix → Except JournalError (RunState × Option RunCommit)}

lemma JournalShape.locked_record (h : JournalShape header committed torn file)
    {record : RunCommit}
    (hrecord : (EdaGym.lockedCall disk header file decision).record = some record) :
    ∃ state, decision (durablePrefix header committed) = .ok (state, some record) := by
  rw [EdaGym.lockedCall, h.decode] at hrecord
  rcases hd : decision (durablePrefix header committed) with e | ⟨state, _ | c⟩
  · simp only [hd] at hrecord
    split at hrecord <;> simp at hrecord
  · simp only [hd] at hrecord
    split at hrecord <;> simp at hrecord
  · simp only [hd] at hrecord
    split at hrecord
    · cases hrecord
    · cases hrecord
      exact ⟨state, rfl⟩

lemma JournalShape.locked_result (h : JournalShape header committed torn file) {state : RunState}
    (hresult : (EdaGym.lockedCall disk header file decision).result = .ok state) :
    decision (durablePrefix header committed) =
      .ok (state, (EdaGym.lockedCall disk header file decision).record) := by
  rw [EdaGym.lockedCall, h.decode] at hresult ⊢
  dsimp only at hresult ⊢
  split at hresult
  · cases hresult
  next hflushed =>
    rw [if_neg hflushed]
    rcases hd : decision (durablePrefix header committed) with e | ⟨state', _ | c⟩
    · simp [hd] at hresult
    · simp only [hd, Except.ok.injEq] at hresult ⊢
      rw [hresult]
    · simp only [hd] at hresult ⊢
      split_ifs at hresult
      cases hresult
      rfl

lemma JournalShape.locked_silent (h : JournalShape header committed torn file) {state : RunState}
    (hd : decision (durablePrefix header committed) = .ok (state, none)) :
    EdaGym.lockedCall disk header file decision =
      { effects := truncateTorn file (durablePrefix header committed)
        result :=
          if truncateTorn file (durablePrefix header committed) ≠ [] ∧ disk.flushTruncated = false
          then .error (.osError "Input/output error") else .ok state } := by
  rw [EdaGym.lockedCall, h.decode]
  simp only [hd]
  split <;> rfl

end Locked

lemma appendCall_eq {requested : List RunEvent} (hne : requested ≠ []) :
    (JournalOperation.append requested).call disk header task file =
      EdaGym.lockedCall disk header file (decideAppend header task requested) := by
  rw [JournalOperation.call, appendEvents, if_neg hne]

lemma decideAppend_eq_ok {requested : List RunEvent} {state : RunState}
    {record : Option RunCommit}
    (h : decideAppend header task requested (durablePrefix header committed) =
      .ok (state, record)) :
    AppendAdmitted header task requested (eventsOf committed) state record.isSome ∧
      ∀ c ∈ record, c.events = requested := by
  simp only [decideAppend, bind_eq_ok] at h
  obtain ⟨⟨state', new⟩, hadmit, h⟩ := h
  have hadmitted := admitAppend_eq_ok_iff.mp hadmit
  cases new with
  | false =>
    simp only [Bool.false_eq_true, if_false, pure_eq_ok, Prod.mk.injEq] at h
    obtain ⟨rfl, rfl⟩ := h
    exact ⟨hadmitted, by simp⟩
  | true =>
    simp only [if_true, bind_eq_ok, pure_eq_ok, Prod.mk.injEq] at h
    obtain ⟨c, hc, rfl, rfl⟩ := h
    refine ⟨hadmitted, ?_⟩
    rintro _ ⟨⟩
    exact (fromEvents_eq_ok hc).2

/-- Whatever a call sets out to append, the journal with it replays. -/
lemma JournalShape.record_replays (h : JournalShape header committed torn file)
    {operation : JournalOperation} {record : RunCommit}
    (hrecord : (operation.call disk header task file).record = some record) :
    ∃ state, replay header task (eventsOf committed ++ record.events) = .ok state := by
  cases operation with
  | append requested =>
    by_cases hne : requested = []
    · rw [JournalOperation.call, appendEvents, if_pos hne] at hrecord
      cases hrecord
    · rw [appendCall_eq hne] at hrecord
      obtain ⟨state, hd⟩ := h.locked_record hrecord
      obtain ⟨hadmitted, hevents⟩ := decideAppend_eq_ok hd
      rw [hevents record rfl]
      cases hadmitted with
      | fresh _ _ _ _ _ _ hreplay => exact ⟨state, hreplay⟩
  | transact factory =>
    obtain ⟨state, hd⟩ := h.locked_record hrecord
    simp only [decideTransact, bind_eq_ok, pure_eq_ok, Prod.mk.injEq, Option.some.injEq] at hd
    obtain ⟨⟨_, requested⟩, hadmit, c, hc, -, rfl⟩ := hd
    simp only [admitTransact, bind_eq_ok, raiseIf_eq_ok, exists_const, pure_eq_ok,
      Prod.mk.injEq] at hadmit
    obtain ⟨before, -, -, _, -, -, -, -, -, state', hreplay, -, rfl⟩ := hadmit
    rw [(fromEvents_eq_ok hc).2]
    exact ⟨state', hreplay⟩

/-- The journal that holds a commit replays. -/
def Replays (header : RunHeader) (task : TaskSpec) (committed : List RunCommit) : Prop :=
  committed ≠ [] → ∃ state, replay header task (eventsOf committed) = .ok state

lemma Replays.extend (h : JournalShape header committed torn file)
    (hreplays : Replays header task committed) (operation : JournalOperation)
    (disk : Disk) {more : List RunCommit} (hmore : ∀ c ∈ more,
      (operation.call disk header task file).record = some c) (hone : more.length ≤ 1) :
    Replays header task (committed ++ more) := by
  rcases more with _ | ⟨record, more⟩
  · rwa [List.append_nil]
  · obtain rfl : more = [] := by
      cases more with
      | nil => rfl
      | cons => simp at hone
    intro _
    have hrecord := hmore record (List.mem_singleton.mpr rfl)
    simpa [eventsOf] using h.record_replays hrecord

omit [Canonical] [JournalDigests] [CommitCodec] in
lemma length_toList_le_one {α : Type} (x : Option α) : x.toList.length ≤ 1 := by
  cases x <;> simp

/-- The record that a call has completed replays after those before it. -/
lemma Replays.completed (h : JournalShape header committed torn file)
    (hreplays : Replays header task committed) (operation : JournalOperation) (disk : Disk)
    (bytes : Bytes) :
    Replays header task
      (committed ++ (operation.call disk header task file).completed bytes) := by
  refine Replays.extend h hreplays operation disk ?_ (length_toList_le_one _)
  intro c hc
  rw [JournalCall.completed, Option.mem_toList] at hc
  exact (Option.mem_filter_iff.mp hc).1

theorem History.replays {attempted : List RunCommit}
    (history : History header task attempted committed file)
    (henc : ∀ c ∈ attempted, Encodes c) : Replays header task committed := by
  induction history with
  | created =>
    intro hne
    exact absurd rfl hne
  | returned prior operation disk state result_eq ih =>
    rw [List.forall_mem_append] at henc
    obtain ⟨torn, h⟩ := prior.shape henc.1
    exact Replays.extend h (ih henc.1) operation disk (fun c hc => by simpa using hc)
      (length_toList_le_one _)
  | raised prior operation disk error result_eq ih =>
    rw [List.forall_mem_append] at henc
    obtain ⟨torn, h⟩ := prior.shape henc.1
    exact Replays.completed h (ih henc.1) operation disk _
  | crashed prior operation disk interrupted ih =>
    rw [List.forall_mem_append] at henc
    obtain ⟨torn, h⟩ := prior.shape henc.1
    exact Replays.completed h (ih henc.1) operation disk _

end Calls

/-! ### Whole histories of calls -/

/-- Reading the file returns these events. -/
def DecodesTo (header : RunHeader) (file : Bytes) (events : List RunEvent) : Prop :=
  (decodeDurablePrefix header file).map DurablePrefix.events = .ok events

/-- What clients may rely on, whatever the others committed. The content of an event is its
canonical encoding. -/
structure ExactlyOnce (header : RunHeader) (task : TaskSpec) (committed : List RunCommit)
    (file : Bytes) : Prop where
  lines : ∃ torn, file = commitLines committed ++ torn ∧ LF ∉ torn
  decoded : decodeDurablePrefix header file = .ok (durablePrefix header committed)
  unique : ((eventsOf committed).map RunEvent.eventId).Nodup
  positions : (eventsOf committed).map (fun e => e.base.sequence) =
    List.range (eventsOf committed).length
  raised : ∀ (operation : JournalOperation) disk error,
    (operation.call disk header task file).result = .error error →
    (∀ c ∈ (operation.call disk header task file).record, Encodes c) →
    DecodesTo header (FileEffect.applyAll file (operation.call disk header task file).effects)
      (eventsOf committed) ∨
    disk.flushWritten = false ∧ ∃ record,
      (operation.call disk header task file).record = some record ∧
      DecodesTo header (FileEffect.applyAll file (operation.call disk header task file).effects)
        (eventsOf committed ++ record.events)
  repeated : ∀ record ∈ committed, ∀ disk, ∃ state,
    replay header task (eventsOf committed) = .ok state ∧
    FileEffect.applyAll file
      ((JournalOperation.append record.events).call disk header task file).effects =
        commitLines committed ∧
    (((JournalOperation.append record.events).call disk header task file).result = .ok state ∨
      file ≠ commitLines committed ∧ disk.flushTruncated = false)
  overlap : ∀ requested disk,
    (∃ e ∈ requested, e.eventId ∈ (eventsOf committed).map RunEvent.eventId) →
    (∃ e ∈ requested, e.eventId ∉ (eventsOf committed).map RunEvent.eventId) →
    ∃ error, ((JournalOperation.append requested).call disk header task file).result =
      .error error
  conflict : ∀ requested disk,
    (∃ e ∈ requested, ∃ c ∈ eventsOf committed,
      c.eventId = e.eventId ∧ eventBytes c ≠ eventBytes e) →
    ∃ error, ((JournalOperation.append requested).call disk header task file).result =
      .error error
  transacted : ∀ factory disk state requested,
    replay header task (eventsOf committed) = .ok state → factory state = .ok requested →
    (∃ e ∈ requested, e.eventId ∈ (eventsOf committed).map RunEvent.eventId) →
    ∃ error, ((JournalOperation.transact factory).call disk header task file).result =
      .error error

section ExactlyOnce

variable {header : RunHeader} {task : TaskSpec} {committed : List RunCommit} {torn file : Bytes}
  {disk : Disk}

lemma JournalShape.whole (h : JournalShape header committed torn file) :
    JournalShape header committed [] (commitLines committed) := by
  have hclean := h.retear List.not_mem_nil
  rwa [List.append_nil] at hclean

omit [CommitCodec] in
lemma JournalCall.completed_cases [CommitCodec] (call : JournalCall) (bytes : Bytes) :
    call.completed bytes = [] ∨
      ∃ record, call.record = some record ∧ call.completed bytes = [record] := by
  cases hrecord : call.record with
  | none => exact Or.inl (JournalCall.completed_of_none hrecord bytes)
  | some record =>
    rw [JournalCall.completed_of_some hrecord]
    split
    · exact Or.inr ⟨record, rfl, rfl⟩
    · exact Or.inl rfl

lemma JournalShape.decodesTo (h : JournalShape header committed torn file) :
    DecodesTo header file (eventsOf committed) := by
  rw [DecodesTo, h.decode]
  rfl

/-- A call that raises has completed no record, unless the flush after its record raised. -/
lemma JournalShape.raised (h : JournalShape header committed torn file)
    {operation : JournalOperation} {error : JournalError}
    (hresult : (operation.call disk header task file).result = .error error)
    (henc : ∀ c ∈ (operation.call disk header task file).record, Encodes c) :
    DecodesTo header (FileEffect.applyAll file (operation.call disk header task file).effects)
      (eventsOf committed) ∨
    disk.flushWritten = false ∧ ∃ record,
      (operation.call disk header task file).record = some record ∧
      DecodesTo header (FileEffect.applyAll file (operation.call disk header task file).effects)
        (eventsOf committed ++ record.events) := by
  obtain ⟨torn', hstep⟩ := h.step operation disk henc (FileEffect.Interrupted.complete _ _)
  have hflushed := (h.completed_written operation disk).2 error hresult
  rcases (operation.call disk header task file).completed_cases (FileEffect.written
    (operation.call disk header task file).effects) with hnone | ⟨record, hrecord, hsome⟩
  · rw [hnone, List.append_nil] at hstep
    exact Or.inl hstep.decodesTo
  · rw [hsome] at hstep hflushed
    refine Or.inr ⟨?_, record, hrecord, ?_⟩
    · by_contra hflush
      exact absurd (hflushed (Bool.not_eq_false _ ▸ hflush)) (by simp)
    · have hdecodes := hstep.decodesTo
      rwa [eventsOf, List.flatMap_append, List.flatMap_singleton] at hdecodes

omit [JournalDigests] [CommitCodec] in
/-- Looking a committed event up by its identifier finds it. -/
lemma get?_committedById {events : List RunEvent} (hnodup : (events.map RunEvent.eventId).Nodup)
    {e : RunEvent} (he : e ∈ events) :
    (Dict.ofList (events.map fun c => (c.eventId, c))).get? e.eventId = some e := by
  refine (Dict.get?_ofList ?_).mpr (List.mem_map_of_mem he)
  rw [List.map_map]
  exact hnodup

variable {state : RunState}

/-- A batch committed as one record is admitted again and changes nothing. -/
lemma AppendAdmitted.of_record {record : RunCommit}
    (hmem : record ∈ committed) (hreplay : replay header task (eventsOf committed) = .ok state) :
    AppendAdmitted header task record.events (eventsOf committed) state false := by
  have hsub : record.events.Sublist (eventsOf committed) := by
    obtain ⟨before, after, rfl⟩ := List.append_of_mem hmem
    simp only [eventsOf, List.flatMap_append, List.flatMap_cons]
    exact (List.sublist_append_left _ _).trans (List.sublist_append_right _ _)
  have hnodup := replay_ids_nodup hreplay
  obtain ⟨e, he⟩ := List.exists_mem_of_ne_nil _ record.events_ne_nil
  refine .repeated state (hnodup.sublist (hsub.map _)) ⟨e, he, ?_⟩ ?_ hreplay
  · exact List.mem_map_of_mem (hsub.subset he)
  · intro e he
    exact ⟨e, get?_committedById hnodup (hsub.subset he), rfl⟩

/-- A batch that is accepted agrees with the committed events on every identifier they share. -/
lemma AppendAdmitted.agrees {requested events : List RunEvent} {new : Bool}
    (h : AppendAdmitted header task requested events state new)
    (hknown : ∃ e ∈ requested, e.eventId ∈ events.map RunEvent.eventId) :
    ∀ e ∈ requested, ∃ c ∈ events, c.eventId = e.eventId ∧ eventBytes c = eventBytes e := by
  cases h with
  | repeated _ _ hsame hreplay =>
    intro e he
    obtain ⟨c, hc, hbytes⟩ := hsame e he
    have hmem := Dict.mem_of_get?_ofList hc
    obtain ⟨c', hc', heq⟩ := List.mem_map.mp hmem
    rw [Prod.mk.injEq] at heq
    obtain ⟨hid, rfl⟩ := heq
    exact ⟨c', hc', hid, hbytes⟩
  | fresh _ _ hunknown =>
    obtain ⟨e, he, hmem⟩ := hknown
    exact absurd hmem (hunknown e he)

lemma JournalShape.append_admitted (h : JournalShape header committed torn file)
    {requested : List RunEvent}
    (hresult : ((JournalOperation.append requested).call disk header task file).result =
      .ok state) :
    ∃ new, AppendAdmitted header task requested (eventsOf committed) state new := by
  by_cases hne : requested = []
  · rw [JournalOperation.call, appendEvents, if_pos hne] at hresult
    cases hresult
  · rw [appendCall_eq hne] at hresult
    exact ⟨_, (decideAppend_eq_ok (h.locked_result hresult)).1⟩

omit [Canonical] [JournalDigests] [CommitCodec] in
lemma Except.exists_error {ε α : Type} {x : Except ε α} (h : ∀ a, x ≠ .ok a) :
    ∃ e, x = .error e := by
  cases x with
  | error e => exact ⟨e, rfl⟩
  | ok a => exact absurd rfl (h a)

/-- Append is exactly-once and atomic, whatever calls were made before and however they ended. -/
theorem journal_exactlyOnce (header : RunHeader) (task : TaskSpec)
    (attempted committed : List RunCommit) (file : Bytes)
    (history : History header task attempted committed file)
    (encodes : ∀ c ∈ attempted, Encodes c) : ExactlyOnce header task committed file := by
  obtain ⟨torn, h⟩ := history.shape encodes
  have hreplays := history.replays encodes
  have hnodup : ((eventsOf committed).map RunEvent.eventId).Nodup := by
    by_cases hne : committed = []
    · subst hne
      exact List.nodup_nil
    · obtain ⟨state, hstate⟩ := hreplays hne
      exact replay_ids_nodup hstate
  refine ⟨⟨torn, h.file_eq, h.torn_open⟩, h.decode, hnodup, ?_, ?_, ?_, ?_, ?_, ?_⟩
  · by_cases hne : committed = []
    · subst hne
      rfl
    · obtain ⟨state, hstate⟩ := hreplays hne
      exact replay_sequences hstate
  · intro operation disk error hresult henc
    exact h.raised hresult henc
  · intro record hmem disk
    obtain ⟨state, hstate⟩ := hreplays (List.ne_nil_of_mem hmem)
    refine ⟨state, hstate, ?_⟩
    have hadmit := admitAppend_eq_ok_iff.mpr (AppendAdmitted.of_record hmem hstate)
    have hdecide : decideAppend header task record.events (durablePrefix header committed) =
        .ok (state, none) := by
      simp only [decideAppend, bind_eq_ok]
      exact ⟨_, hadmit, rfl⟩
    have htorn : truncateTorn file (durablePrefix header committed) ≠ [] →
        file ≠ commitLines committed := by
      rintro hne rfl
      exact hne (by rw [truncateTorn, durablePrefix, if_neg (by simp)])
    rw [appendCall_eq record.events_ne_nil, h.locked_silent hdecide]
    refine ⟨applyAll_truncateTail h.file_eq, ?_⟩
    split_ifs with hflush
    · exact Or.inr ⟨htorn hflush.1, hflush.2⟩
    · exact Or.inl rfl
  · intro requested disk hknown hunknown
    refine Except.exists_error fun state hresult => ?_
    obtain ⟨new, hadmitted⟩ := h.append_admitted hresult
    obtain ⟨e, he, hno⟩ := hunknown
    obtain ⟨c, hc, hid, -⟩ := hadmitted.agrees hknown e he
    exact hno (hid ▸ List.mem_map_of_mem hc)
  · intro requested disk hconflict
    refine Except.exists_error fun state hresult => ?_
    obtain ⟨new, hadmitted⟩ := h.append_admitted hresult
    obtain ⟨e, he, c, hc, hid, hne⟩ := hconflict
    obtain ⟨c', hc', hid', hbytes⟩ :=
      hadmitted.agrees ⟨e, he, hid ▸ List.mem_map_of_mem hc⟩ e he
    have hsame : c' = c := List.inj_on_of_nodup_map hnodup hc' hc (hid'.trans hid.symm)
    exact hne (hsame ▸ hbytes)
  · intro factory disk state requested hstate hfactory hknown
    refine Except.exists_error fun state' hresult => ?_
    have hd := h.locked_result hresult
    simp only [decideTransact, bind_eq_ok, pure_eq_ok, Prod.mk.injEq] at hd
    obtain ⟨⟨_, requested'⟩, hadmit, -⟩ := hd
    simp only [admitTransact, bind_eq_ok, raiseIf_eq_ok, exists_const, pure_eq_ok,
      Prod.mk.injEq] at hadmit
    obtain ⟨before, hbefore, -, _, hrequested, -, -, hunused, -, _, -, -, rfl⟩ := hadmit
    obtain rfl := Except.ok.inj (hstate.symm.trans hbefore)
    obtain rfl := Except.ok.inj (hfactory.symm.trans hrequested)
    exact hunused hknown

end ExactlyOnce

end Journal

/-! ### A record that is not flushed -/

section UnflushedRecord

local instance unflushedCanonical : Canonical := plainCanonical
local instance unflushedDigests : JournalDigests := plainDigests
local instance unflushedCodec : CommitCodec := plainCodec

def unflushedCall : JournalCall :=
  (JournalOperation.append submitCommit.events).call unflushedDisk gateHeader gateTask
    (commitLines [startCommit])

lemma unflushedCall_eq :
    unflushedCall.result.isOk = false ∧ unflushedCall.record = some submitCommit ∧
      unflushedCall.effects = [.append (commitBytes submitCommit ++ [LF])] := by
  decide +kernel

lemma unflushedCall_raises : ∃ error, unflushedCall.result = .error error := by
  refine Except.exists_error fun state hstate => ?_
  have hraised := unflushedCall_eq.1
  rw [hstate] at hraised
  cases hraised

lemma unflushedCall_file :
    FileEffect.applyAll (commitLines [startCommit]) unflushedCall.effects =
      commitLines [startCommit, submitCommit] := by
  rw [unflushedCall_eq.2.2]
  simp [FileEffect.applyAll, FileEffect.apply, commitLines, terminated]

/-- The run is started, and the flush after the submission of the candidate raises. -/
lemma unflushedFile_history : History gateHeader gateTask [startCommit, submitCommit]
    [startCommit, submitCommit] (commitLines [startCommit, submitCommit]) := by
  obtain ⟨-, hrecord, heffects⟩ := unflushedCall_eq
  obtain ⟨error, herror⟩ := unflushedCall_raises
  have hsubmit : History gateHeader gateTask ([startCommit] ++ unflushedCall.record.toList)
      ([startCommit] ++ unflushedCall.completed (FileEffect.written unflushedCall.effects))
      (FileEffect.applyAll (commitLines [startCommit]) unflushedCall.effects) :=
    startCommit_history.raised _ _ error herror
  have hwritten : FileEffect.written unflushedCall.effects = commitBytes submitCommit ++ [LF] := by
    rw [heffects]
    exact List.append_nil _
  rwa [hwritten, JournalCall.completed_of_some hrecord, if_pos rfl, hrecord,
    unflushedCall_file] at hsubmit

/-- Submitting again after the flush has raised changes nothing and returns. -/
theorem unflushedFile_exactlyOnce :
    History gateHeader gateTask [startCommit, submitCommit] [startCommit, submitCommit]
      (commitLines [startCommit, submitCommit]) ∧
    ExactlyOnce gateHeader gateTask [startCommit, submitCommit]
      (commitLines [startCommit, submitCommit]) ∧
    ∃ state, ((JournalOperation.append submitCommit.events).call unflushedDisk gateHeader gateTask
      (commitLines [startCommit, submitCommit])).result = .ok state := by
  have honce := journal_exactlyOnce _ _ _ _ _ unflushedFile_history plainCommits_encode
  obtain ⟨state, -, -, hresult⟩ := honce.repeated submitCommit (by simp) unflushedDisk
  refine ⟨unflushedFile_history, honce, state, hresult.resolve_right ?_⟩
  rintro ⟨hne, -⟩
  exact hne rfl

/-- A call that raises may have added its record, and repeating a batch drops a torn record. -/
theorem unflushed_record_committed :
    (History gateHeader gateTask [startCommit] [startCommit] (commitLines [startCommit]) ∧
      (∃ error, unflushedCall.result = .error error) ∧
      DecodesTo gateHeader (commitLines [startCommit]) startCommit.events ∧
      DecodesTo gateHeader (FileEffect.applyAll (commitLines [startCommit]) unflushedCall.effects)
        (startCommit.events ++ submitCommit.events)) ∧
    History gateHeader gateTask [startCommit, submitCommit] [startCommit] tornFile ∧
      FileEffect.applyAll tornFile ((JournalOperation.append startCommit.events).call soundDisk
        gateHeader gateTask tornFile).effects ≠ tornFile := by
  obtain ⟨_, hbefore⟩ := startCommit_history.shape (by simpa using startCommit_encodes)
  obtain ⟨_, hafter⟩ := unflushedFile_history.shape plainCommits_encode
  refine ⟨⟨startCommit_history, unflushedCall_raises, hbefore.decodesTo, ?_⟩, tornFile_history,
    by decide +kernel⟩
  rw [unflushedCall_file]
  exact hafter.decodesTo

end UnflushedRecord

end EdaGym
