import EdaGym.Run.JournalAppend

/-!
# The grouping of events into commits

Appending is decided by the replay of the flat event list. Two readers of the journal also look at
its commits: the query whether some events share one record, and the portable archive.
-/

namespace EdaGym

section Journal

variable [Canonical]

/-! ### Consecutive positions -/

/-- The events of the list have consecutive sequence numbers, in increasing order. -/
def Consecutive (events : List RunEvent) : Prop :=
  ∃ start, events.map (fun e => e.base.sequence) = List.range' start events.length

lemma Consecutive.of_segment {part events : List RunEvent} (h : Consecutive events)
    (hpart : part <:+: events) : Consecutive part := by
  obtain ⟨start, hstart⟩ := h
  obtain ⟨before, after, rfl⟩ := hpart
  refine ⟨start + before.length, ?_⟩
  have hdrop := congrArg (fun l => (l.drop before.length).take part.length) hstart
  simp only [List.map_append, List.append_assoc] at hdrop
  rw [List.drop_left' (by simp), List.take_left' (by simp), List.drop_range', Nat.mul_one,
    List.take_range'_of_length_ge (by simp)] at hdrop
  exact hdrop

/-- Events of a consecutive list that are consecutive themselves are a segment of it. -/
lemma Consecutive.segment {part events : List RunEvent} (h : Consecutive events)
    (hpart : Consecutive part) (hmem : ∀ e ∈ part, e ∈ events) : part <:+: events := by
  obtain ⟨start, hstart⟩ := h
  obtain ⟨first, hfirst⟩ := hpart
  have hat : ∀ i e, events[i]? = some e → e.base.sequence = start + i := by
    intro i e he
    have hi := congrArg (fun l => l[i]?) hstart
    have hlt := (List.getElem?_eq_some_iff.mp he).1
    simp only [List.getElem?_map, he, Option.map_some, List.getElem?_range' hlt] at hi
    simpa using hi
  have hpartAt : ∀ i e, part[i]? = some e → e.base.sequence = first + i := by
    intro i e he
    have hi := congrArg (fun l => l[i]?) hfirst
    have hlt := (List.getElem?_eq_some_iff.mp he).1
    simp only [List.getElem?_map, he, Option.map_some, List.getElem?_range' hlt] at hi
    simpa using hi
  -- the segment starts where the first event of the part stands
  have hseg : ∀ i e, part[i]? = some e →
      start ≤ first + i ∧ events[first + i - start]? = some e := by
    intro i e he
    obtain ⟨j, hj⟩ := List.mem_iff_getElem?.mp (hmem e (List.mem_of_getElem? he))
    have h₁ := hat j e hj
    have h₂ := hpartAt i e he
    have hji : first + i - start = j := by omega
    exact ⟨by omega, by rw [hji, hj]⟩
  rcases part with _ | ⟨e, part⟩
  · exact List.nil_infix
  · have hle : start ≤ first := by simpa using (hseg 0 e rfl).1
    have heq : e :: part = (events.drop (first - start)).take (e :: part).length := by
      refine List.ext_getElem? fun i => ?_
      by_cases hi : i < (e :: part).length
      · rw [List.getElem?_take_of_lt hi, List.getElem?_drop]
        have hget := (hseg i _ (List.getElem?_eq_getElem hi)).2
        rw [List.getElem?_eq_getElem hi, ← hget]
        congr 1
        omega
      · have hle := List.length_take_le (e :: part).length (events.drop (first - start))
        rw [List.getElem?_eq_none (by omega), List.getElem?_eq_none (by omega)]
    rw [heq]
    exact (List.take_prefix _ _).isInfix.trans (List.drop_suffix _ _).isInfix

/-! ### One crash-atomic record -/

variable [JournalDigests] [CommitCodec]

/-- Whether all named events share one crash-atomic physical record. -/
def eventsCommittedTogether (header : RunHeader) (task : TaskSpec) (eventIds : List UUID)
    (data : Bytes) : Except JournalError Bool := do
  raiseIf (eventIds = [] ∨ ¬ eventIds.Nodup)
    (.valueError "journal record query requires distinct event identifiers")
  let durable ← decodeDurablePrefix header data
  let _ ← replay header task durable.events
  return durable.records.any fun record =>
    eventIds.all fun eventId => eventId ∈ record.events.map RunEvent.eventId

/-- The journal holds the batch inside a single commit, contiguous and in the batch's order. -/
def InOneRecord (header : RunHeader) (batch : List RunEvent) (data : Bytes) : Prop :=
  ∃ durable, decodeDurablePrefix header data = .ok durable ∧
    ∃ record ∈ durable.records, batch <:+: record.events

section OneRecord

variable {header : RunHeader} {task : TaskSpec} {committed : List RunCommit} {torn file : Bytes}
  {batch : List RunEvent} {disk : Disk} {state : RunState}

omit [CommitCodec] in
lemma eventsOf_segment {record : RunCommit} (h : record ∈ committed) :
    record.events <:+: eventsOf committed := by
  obtain ⟨before, after, rfl⟩ := List.append_of_mem h
  refine ⟨eventsOf before, eventsOf after, ?_⟩
  simp [eventsOf]

lemma JournalShape.inOneRecord_iff (h : JournalShape header committed torn file) :
    InOneRecord header batch file ↔ ∃ record ∈ committed, batch <:+: record.events := by
  rw [InOneRecord, h.decode]
  constructor
  · rintro ⟨_, ⟨⟩, hrecord⟩
    exact hrecord
  · intro hrecord
    exact ⟨_, rfl, hrecord⟩

lemma JournalShape.committedTogether (h : JournalShape header committed torn file)
    (hreplay : replay header task (eventsOf committed) = .ok state) (hne : batch ≠ [])
    (hnodup : (batch.map RunEvent.eventId).Nodup)
    (hrecord : ∃ record ∈ committed, batch <:+: record.events) :
    eventsCommittedTogether header task (batch.map RunEvent.eventId) file = .ok true := by
  simp only [eventsCommittedTogether, bind_eq_ok, raiseIf_eq_ok, exists_const, pure_eq_ok, not_or,
    not_not, List.any_eq_true, List.all_eq_true, decide_eq_true_eq]
  obtain ⟨record, hmem, hsegment⟩ := hrecord
  refine ⟨⟨by simpa using hne, hnodup⟩, _, h.decode, state, hreplay, record, hmem, ?_⟩
  intro id hid
  exact (hsegment.map RunEvent.eventId).subset hid

/-- A batch that repeats committed events consists of them. -/
lemma AppendAdmitted.subset {events : List RunEvent} {new : Bool}
    (h : AppendAdmitted header task batch events state new)
    (hknown : ∃ e ∈ batch, e.eventId ∈ events.map RunEvent.eventId)
    (hbytes : ∀ e ∈ batch, ∀ c ∈ events, eventBytes c = eventBytes e → c = e) :
    ∀ e ∈ batch, e ∈ events := by
  intro e he
  obtain ⟨c, hc, -, heq⟩ := h.agrees hknown e he
  exact hbytes e he c hc heq ▸ hc

omit [CommitCodec] in
/-- Committed events are a segment of one record exactly when they are consecutive and one record
holds their identifiers. -/
lemma segment_iff (hreplay : replay header task (eventsOf committed) = .ok state)
    (hsub : ∀ e ∈ batch, e ∈ eventsOf committed) :
    (∃ record ∈ committed, batch <:+: record.events) ↔
      Consecutive batch ∧ ∃ record ∈ committed, ∀ e ∈ batch,
        e.eventId ∈ record.events.map RunEvent.eventId := by
  have hconsecutive : ∀ record ∈ committed, Consecutive record.events := by
    intro record hmem
    refine Consecutive.of_segment ⟨0, ?_⟩ (eventsOf_segment hmem)
    rw [replay_sequences hreplay, List.range_eq_range']
  constructor
  · rintro ⟨record, hmem, hsegment⟩
    refine ⟨(hconsecutive record hmem).of_segment hsegment, record, hmem, ?_⟩
    intro e he
    exact List.mem_map_of_mem (hsegment.subset he)
  · rintro ⟨hbatch, record, hmem, hids⟩
    refine ⟨record, hmem, (hconsecutive record hmem).segment hbatch ?_⟩
    intro e he
    obtain ⟨e', he', hid⟩ := List.mem_map.mp (hids e he)
    have hsame : e' = e := List.inj_on_of_nodup_map (replay_ids_nodup hreplay)
      ((eventsOf_segment hmem).subset he') (hsub e he) hid
    exact hsame ▸ he'

end OneRecord

/-- When an append returns, its batch lies in one record of the journal exactly when it was new or
had been committed by one call and in the same order. -/
theorem append_inOneRecord_iff (header : RunHeader) (task : TaskSpec)
    (attempted committed : List RunCommit) (file : Bytes)
    (history : History header task attempted committed file)
    (encodes : ∀ c ∈ attempted, Encodes c) (batch : List RunEvent) (disk : Disk)
    (state : RunState)
    (result_eq : ((JournalOperation.append batch).call disk header task file).result =
      .ok state)
    (record_encodes : ∀ c ∈ ((JournalOperation.append batch).call disk header task file).record,
      Encodes c)
    (content : ∀ e ∈ batch, ∀ c ∈ eventsOf committed, eventBytes c = eventBytes e → c = e) :
    (InOneRecord header batch (FileEffect.applyAll file
        ((JournalOperation.append batch).call disk header task file).effects) ∧
      eventsCommittedTogether header task (batch.map RunEvent.eventId) (FileEffect.applyAll file
        ((JournalOperation.append batch).call disk header task file).effects) = .ok true) ↔
    (∀ e ∈ batch, e.eventId ∉ (eventsOf committed).map RunEvent.eventId) ∨
      Consecutive batch ∧ ∃ record ∈ committed, ∀ e ∈ batch,
        e.eventId ∈ record.events.map RunEvent.eventId := by
  obtain ⟨torn, h⟩ := history.shape encodes
  have hne : batch ≠ [] := by
    rintro rfl
    rw [JournalOperation.call, appendEvents, if_pos rfl] at result_eq
    cases result_eq
  have hshape : JournalShape header
      (committed ++ ((JournalOperation.append batch).call disk header task file).record.toList)
      [] (FileEffect.applyAll file
        ((JournalOperation.append batch).call disk header task file).effects) := by
    rcases h.call (.append batch) disk with ⟨e, hcall⟩ | ⟨writes, hc⟩
    · rw [hcall] at result_eq
      cases result_eq
    · exact h.returned _ disk hc result_eq record_encodes
  rw [hshape.inOneRecord_iff]
  rw [appendCall_eq hne] at result_eq hshape ⊢
  obtain ⟨hadmitted, hevents⟩ := decideAppend_eq_ok (h.locked_result result_eq)
  obtain ⟨record, hrecord⟩ : ∃ record, record =
    (EdaGym.lockedCall disk header file (decideAppend header task batch)).record := ⟨_, rfl⟩
  rw [← hrecord] at hadmitted hevents hshape ⊢
  rcases record with _ | record
  · -- the batch was committed before, and the journal stays as it is
    rw [Option.toList_none, List.append_nil] at hshape ⊢
    cases hadmitted with
    | repeated hdistinct hknown hsame hreplay =>
      have hsub := (AppendAdmitted.repeated state hdistinct hknown hsame hreplay).subset hknown
        content
      rw [segment_iff hreplay hsub]
      constructor
      · rintro ⟨hsegment, -⟩
        exact Or.inr hsegment
      · rintro (hfresh | hsegment)
        · obtain ⟨e, he, hmem⟩ := hknown
          exact absurd hmem (hfresh e he)
        · exact ⟨hsegment, hshape.committedTogether hreplay hne hdistinct
            ((segment_iff hreplay hsub).mpr hsegment)⟩
  · -- the batch becomes the last record
    cases hadmitted with
    | fresh before hdistinct hunknown _ _ _ hreplay =>
      have hself : ∃ c ∈ committed ++ (some record).toList, batch <:+: c.events := by
        have hsame : record.events = batch := hevents record rfl
        exact ⟨record, by simp, hsame ▸ List.infix_rfl⟩
      have hreplay' : replay header task (eventsOf (committed ++ (some record).toList)) =
          .ok state := by
        rw [← hreplay, ← hevents record rfl]
        simp [eventsOf]
      constructor
      · intro _
        exact Or.inl hunknown
      · intro _
        exact ⟨hself, hshape.committedTogether hreplay' hne hdistinct hself⟩

end Journal

/-! ### A batch committed in two records -/

section SplitBatch

local instance splitCanonical : Canonical := plainCanonical
local instance splitDigests : JournalDigests := plainDigests
local instance splitCodec : CommitCodec := plainCodec

/-- One client starts the run, another submits the candidate. -/
lemma splitFile_history : History gateHeader gateTask [startCommit, submitCommit]
    [startCommit, submitCommit] (commitLines [startCommit, submitCommit]) := by
  obtain ⟨-, ⟨hok, hrecord, heffects, -⟩, -⟩ := tornCalls
  obtain ⟨state, hstate⟩ := Except.exists_of_isOk hok
  have hsubmit : History gateHeader gateTask ([startCommit] ++ submitCall.record.toList)
      ([startCommit] ++ submitCall.record.toList)
      (FileEffect.applyAll (commitLines [startCommit]) submitCall.effects) :=
    startCommit_history.returned _ _ state hstate
  have hfile : FileEffect.applyAll (commitLines [startCommit]) submitCall.effects =
      commitLines [startCommit, submitCommit] := by
    rw [heffects]
    simp [FileEffect.applyAll, FileEffect.apply, commitLines, terminated]
  rwa [hrecord, hfile] at hsubmit

lemma splitCommits_encode : ∀ c ∈ [startCommit, submitCommit], Encodes c := by
  simpa using ⟨startCommit_encodes, submitCommit_encodes⟩

/-- The start of the run and the submission, as one batch. -/
def splitBatch : List RunEvent := passingRun.take 2

lemma splitBatch_call : ∃ state,
    (JournalOperation.append splitBatch).call soundDisk gateHeader gateTask
      (commitLines [startCommit, submitCommit]) = { effects := [], result := .ok state } := by
  obtain ⟨torn, h⟩ := splitFile_history.shape splitCommits_encode
  have hwhole := h.whole
  obtain ⟨state, hstate⟩ : ∃ state,
      replay gateHeader gateTask (eventsOf [startCommit, submitCommit]) = .ok state :=
    Except.exists_of_isOk (by decide +kernel)
  have hadmitted : AppendAdmitted gateHeader gateTask splitBatch
      (eventsOf [startCommit, submitCommit]) state false := by
    refine .repeated state (by decide +kernel) (by decide +kernel) ?_ hstate
    intro e he
    exact ⟨e, get?_committedById (replay_ids_nodup hstate) he, rfl⟩
  have hdecide : decideAppend gateHeader gateTask splitBatch
      (durablePrefix gateHeader [startCommit, submitCommit]) = .ok (state, none) := by
    simp only [decideAppend, bind_eq_ok]
    exact ⟨_, admitAppend_eq_ok_iff.mpr hadmitted, rfl⟩
  refine ⟨state, ?_⟩
  rw [appendCall_eq (by decide +kernel), hwhole.locked_silent hdecide, hwhole.truncateTorn_eq]
  simp

/-- The batch was never committed as one record, yet appending it returns. -/
theorem splitBatch_accepted :
    History gateHeader gateTask [startCommit, submitCommit] [startCommit, submitCommit]
      (commitLines [startCommit, submitCommit]) ∧
    ∃ call, call = (JournalOperation.append splitBatch).call soundDisk gateHeader gateTask
        (commitLines [startCommit, submitCommit]) ∧
      (∃ state, call.result = .ok state) ∧
      ¬ InOneRecord gateHeader splitBatch
        (FileEffect.applyAll (commitLines [startCommit, submitCommit]) call.effects) ∧
      eventsCommittedTogether gateHeader gateTask (splitBatch.map RunEvent.eventId)
        (FileEffect.applyAll (commitLines [startCommit, submitCommit]) call.effects) =
          .ok false := by
  obtain ⟨state, hcall⟩ := splitBatch_call
  obtain ⟨torn, h⟩ := splitFile_history.shape splitCommits_encode
  have hfile : FileEffect.applyAll (commitLines [startCommit, submitCommit]) [] =
    commitLines [startCommit, submitCommit] := rfl
  refine ⟨splitFile_history, _, rfl, ⟨state, by rw [hcall]⟩, ?_, ?_⟩
  · rw [hcall, hfile, h.whole.inOneRecord_iff]
    rintro ⟨record, hmem, hsegment⟩
    have hlength := hsegment.length_le
    have hone : record.events.length = 1 := by
      revert record
      decide +kernel
    rw [hone] at hlength
    exact absurd hlength (by decide)
  · rw [hcall, hfile]
    simp only [eventsCommittedTogether, h.whole.decode]
    decide +kernel

/-- Repeating one of the two records meets the condition. -/
theorem startCommit_inOneRecord :
    InOneRecord gateHeader startCommit.events (FileEffect.applyAll
      (commitLines [startCommit, submitCommit])
      ((JournalOperation.append startCommit.events).call soundDisk gateHeader gateTask
        (commitLines [startCommit, submitCommit])).effects) := by
  obtain ⟨torn, h⟩ := splitFile_history.shape splitCommits_encode
  obtain ⟨state, hstate⟩ : ∃ state,
      replay gateHeader gateTask (eventsOf [startCommit, submitCommit]) = .ok state :=
    Except.exists_of_isOk (by decide +kernel)
  have hdecide : decideAppend gateHeader gateTask startCommit.events
      (durablePrefix gateHeader [startCommit, submitCommit]) = .ok (state, none) := by
    simp only [decideAppend, bind_eq_ok]
    exact ⟨_, admitAppend_eq_ok_iff.mpr
      (AppendAdmitted.of_record (List.mem_cons_self ..) hstate), rfl⟩
  have hcall : (JournalOperation.append startCommit.events).call soundDisk gateHeader gateTask
      (commitLines [startCommit, submitCommit]) =
        { effects := [], result := .ok state } := by
    rw [appendCall_eq startCommit.events_ne_nil, h.whole.locked_silent hdecide,
      h.whole.truncateTorn_eq]
    simp
  refine ((append_inOneRecord_iff _ _ _ _ _ splitFile_history splitCommits_encode
    startCommit.events soundDisk state (by rw [hcall]) ?_ ?_).mpr ?_).1
  · rw [hcall]
    simp
  · decide +kernel
  · exact Or.inr ⟨⟨0, rfl⟩, startCommit, by simp, fun e he => List.mem_map_of_mem he⟩

end SplitBatch

end EdaGym
