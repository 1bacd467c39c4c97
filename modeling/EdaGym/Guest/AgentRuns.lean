import EdaGym.Guest.Agent

/-!
# Runs of the guest agent

What an invocation keeps while its goroutine and the request loop take turns, and what becomes of it
once a cancel request was processed.
-/

namespace EdaGym

namespace GuestInvocation

variable {i i' : GuestInvocation} {n : Nat} {trusted : Bool} {a : GuestAction}

/-! ### The command of an invocation -/

@[simp] lemma process_setProcess (status : ProcessStatus) :
    (i.setProcess status).process = i.command.map fun _ => status := by
  cases h : i.command <;> simp [process, setProcess, h]

@[simp] lemma phase_kill : i.kill.phase = i.phase := by
  rw [kill]
  split <;> rfl

@[simp] lemma result_kill : i.kill.result = i.result := by
  rw [kill]
  split <;> rfl

@[simp] lemma cancelled_kill : i.kill.cancelled = i.cancelled := by
  rw [kill]
  split <;> rfl

@[simp] lemma request_kill : i.kill.request = i.request := by
  rw [kill]
  split <;> rfl

lemma process_kill_ne_alive : i.kill.process ≠ some .alive := by
  rw [kill]
  cases h : i.process with
  | none => simp [h]
  | some status =>
    rw [process_setProcess]
    cases status <;> cases i.command <;> simp [ProcessStatus.kill]

lemma process_kill_eq_none (h : i.process = none) : i.kill.process = none := by
  rw [kill, h]
  exact h

lemma process_map {f : GuestCommand → GuestCommand} (hf : ∀ c, (f c).process = c.process) :
    ({ i with command := i.command.map f } : GuestInvocation).process = i.process := by
  cases h : i.command <;> simp [process, h, hf]

/-! ### What a step can do -/

variable [StoreCrypto] [Base64]

/-- The steps of `execute` and of its command, with the number of commands that they start. -/
inductive ExecuteStep (trusted : Bool) (i : GuestInvocation) : GuestInvocation → Nat → Prop
  | prepare (hphase : i.phase = .preparing) : ExecuteStep trusted i (i.prepare trusted) 0
  | started (hphase : i.phase = .starting false) :
      ExecuteStep trusted i { i.setProcess .alive with phase := .waiting } 1
  | notStarted (c : Bool) (hphase : i.phase = .starting c) :
      ExecuteStep trusted i { i with phase := .waited false false } 0
  | write (f : GuestCommand → GuestCommand) (hprocess : ∀ c, (f c).process = c.process)
      (hphase : i.phase = .waiting ∨ i.phase = .draining) :
      ExecuteStep trusted i { i with command := i.command.map f } 0
  | exit (code : Int) (hprocess : i.process = some .alive ∨ i.process = some .killed) :
      ExecuteStep trusted i (i.setProcess (.exited code)) 0
  | deadline (hphase : i.phase = .waiting) :
      ExecuteStep trusted i { i.kill with phase := .draining } 0
  | reap (code : Int) (timedOut : Bool) (hprocess : i.process = some (.exited code))
      (hphase : i.phase = .waiting ∨ i.phase = .draining) :
      ExecuteStep trusted i { i with phase := .waited true timedOut } 0
  | conclude (started timedOut : Bool) (hphase : i.phase = .waited started timedOut) :
      ExecuteStep trusted i { i with phase := .building (i.conclude started timedOut) } 0
  | store (found : OutputDeclaration → OutputFile) (result : ResultReply)
      (hphase : i.phase = .building result) :
      ExecuteStep trusted i
        { i with result := some (i.withOutputs found result), phase := .finished } 0

theorem executeStep_of_step (h : i.step trusted a = some (i', n)) :
    ExecuteStep trusted i i' n := by
  cases a with
  | frame content => cases h
  | prepare =>
    simp only [step, Option.ite_none_right_eq_some, Option.some.injEq, Prod.mk.injEq] at h
    obtain ⟨hphase, rfl, rfl⟩ := h
    exact .prepare hphase
  | start succeeds =>
    simp only [step] at h
    split at h
    · next c hphase =>
      split_ifs at h with hstart
      · cases h
        exact .started (hstart.1 ▸ hphase)
      · cases h
        exact .notStarted c hphase
    · cases h
  | writeStdout content =>
    simp only [step, Option.ite_none_right_eq_some, Option.some.injEq, Prod.mk.injEq] at h
    obtain ⟨hphase, rfl, rfl⟩ := h
    exact .write _ (fun _ => rfl) hphase
  | writeStderr content =>
    simp only [step, Option.ite_none_right_eq_some, Option.some.injEq, Prod.mk.injEq] at h
    obtain ⟨hphase, rfl, rfl⟩ := h
    exact .write _ (fun _ => rfl) hphase
  | exit code =>
    simp only [step, Option.ite_none_right_eq_some, Option.some.injEq, Prod.mk.injEq] at h
    obtain ⟨hprocess, rfl, rfl⟩ := h
    exact .exit code hprocess
  | deadline =>
    simp only [step, Option.ite_none_right_eq_some, Option.some.injEq, Prod.mk.injEq] at h
    obtain ⟨hphase, rfl, rfl⟩ := h
    exact .deadline hphase
  | reap =>
    simp only [step] at h
    split at h
    · next code hprocess hphase =>
      cases h
      exact .reap code false hprocess (Or.inl hphase)
    · next code hprocess hphase =>
      cases h
      exact .reap code true hprocess (Or.inr hphase)
    · cases h
  | conclude =>
    simp only [step] at h
    split at h
    · next started timedOut hphase =>
      cases h
      exact .conclude started timedOut hphase
    · cases h
  | store found =>
    simp only [step] at h
    split at h
    · next result hphase =>
      cases h
      exact .store found result hphase
    · cases h

/-! ### Invariants -/

/-- What holds of an invocation with the number of commands that were started. -/
structure Sound (i : GuestInvocation) (starts : Nat) : Prop where
  starts_le : starts ≤ 1
  unstarted : (i.phase = .preparing ∨ ∃ c, i.phase = .starting c) → starts = 0 ∧ i.process = none
  alive : i.process = some .alive → i.phase = .waiting
  stored : i.result ≠ none → i.phase = .finished

/-- No command is started any more, none is alive, and what is stored says `cancelled`. -/
structure Stopped (i : GuestInvocation) : Prop where
  cancelled : i.cancelled = true
  not_alive : i.process ≠ some .alive
  starting : i.phase ≠ .starting false
  building : ∀ r, i.phase = .building r → r.state = .cancelled
  stored : ∀ r, i.result = some r → r.state = .cancelled

lemma state_conclude_of_cancelled (h : i.cancelled = true) (started timedOut : Bool) :
    (i.conclude started timedOut).state = .cancelled := by
  simp [conclude, verdict, h]

lemma state_withOutputs {result : ResultReply} (h : result.state = .cancelled)
    (found : OutputDeclaration → OutputFile) : (i.withOutputs found result).state = .cancelled := by
  rw [withOutputs, if_neg (by simp [h])]
  exact h

variable {starts : Nat}

omit [StoreCrypto] [Base64] in
lemma Sound.result_eq_none (h : i.Sound starts) (hphase : i.phase ≠ .finished) :
    i.result = none := by
  by_contra hne
  exact hphase (h.stored hne)

omit [StoreCrypto] [Base64] in
/-- A step that does not start the command keeps the invocation sound when it goes past the start,
leaves no process alive that was not, and stores a result only at its end. -/
lemma Sound.past (h : i.Sound starts) (hpreparing : i'.phase ≠ .preparing)
    (hstarting : ∀ c, i'.phase ≠ .starting c)
    (halive : i'.process = some .alive → i'.phase = .waiting)
    (hresult : i'.result = i.result) (hphase : i.phase ≠ .finished) : i'.Sound starts := by
  refine ⟨h.starts_le, ?_, halive, fun hne => ?_⟩
  · rintro (hphase' | ⟨c, hphase'⟩)
    · exact absurd hphase' hpreparing
    · exact absurd hphase' (hstarting c)
  · rw [hresult, h.result_eq_none hphase] at hne
    exact absurd rfl hne

theorem Sound.executeStep (h : i.Sound starts) (hstep : ExecuteStep trusted i i' n) :
    i'.Sound (starts + n) := by
  cases hstep with
  | prepare hphase =>
    obtain ⟨hstarts, hprocess⟩ := h.unstarted (Or.inl hphase)
    have hresult : i.result = none := h.result_eq_none (by simp [hphase])
    rw [prepare]
    split_ifs
    · exact ⟨h.starts_le, fun _ => ⟨hstarts, rfl⟩, fun halive => (nomatch halive),
        fun hne => absurd hresult hne⟩
    · refine ⟨h.starts_le, ?_, fun halive => ?_, fun _ => rfl⟩
      · rintro (hphase' | ⟨c, hphase'⟩) <;> cases hphase'
      · exact nomatch hprocess.symm.trans halive
  | started hphase =>
    obtain ⟨hstarts, -⟩ := h.unstarted (Or.inr ⟨false, hphase⟩)
    have hresult : i.result = none := h.result_eq_none (by simp [hphase])
    refine ⟨by omega, ?_, fun _ => rfl, fun hne => absurd hresult hne⟩
    rintro (hphase' | ⟨c, hphase'⟩) <;> cases hphase'
  | notStarted c hphase =>
    obtain ⟨-, hprocess⟩ := h.unstarted (Or.inr ⟨c, hphase⟩)
    exact h.past (by simp) (by simp) (fun halive => (nomatch hprocess.symm.trans halive)) rfl
      (by simp [hphase])
  | write f hf hphase =>
    refine ⟨h.starts_le, fun hun => ?_, fun halive => ?_, h.stored⟩
    · rw [process_map hf]
      exact h.unstarted hun
    · rw [process_map hf] at halive
      exact h.alive halive
  | exit code hprocess =>
    refine ⟨h.starts_le, fun hun => ?_, fun halive => ?_, h.stored⟩
    · rw [(h.unstarted hun).2] at hprocess
      rcases hprocess with hprocess | hprocess <;> cases hprocess
    · rw [process_setProcess] at halive
      obtain ⟨_, -, hstatus⟩ := Option.map_eq_some_iff.mp halive
      cases hstatus
  | deadline hphase =>
    exact h.past (by simp) (by simp) (fun halive => absurd halive process_kill_ne_alive)
      result_kill (by simp [hphase])
  | reap code timedOut hprocess hphase =>
    refine h.past (by simp) (by simp) (fun halive => ?_) rfl ?_
    · exact nomatch hprocess.symm.trans halive
    · rcases hphase with hphase | hphase <;> simp [hphase]
  | conclude started timedOut hphase =>
    refine h.past (by simp) (by simp) (fun halive => ?_) rfl (by simp [hphase])
    rw [h.alive halive] at hphase
    cases hphase
  | store found result hphase =>
    refine ⟨h.starts_le, ?_, fun halive => ?_, fun _ => rfl⟩
    · rintro (hphase' | ⟨c, hphase'⟩) <;> cases hphase'
    · rw [h.alive halive] at hphase
      cases hphase

/-- Once stopped an invocation stays stopped, and no step of it starts a command. -/
theorem Stopped.executeStep (h : i.Stopped) (hstep : ExecuteStep trusted i i' n) :
    i'.Stopped ∧ n = 0 := by
  cases hstep with
  | prepare hphase =>
    refine ⟨?_, rfl⟩
    rw [prepare]
    split_ifs
    · exact ⟨h.cancelled, fun halive => (nomatch halive), by simp [h.cancelled], by simp, h.stored⟩
    · exact ⟨h.cancelled, h.not_alive, by simp, by simp, h.stored⟩
  | started hphase => exact absurd hphase h.starting
  | notStarted c hphase => exact ⟨⟨h.cancelled, h.not_alive, by simp, by simp, h.stored⟩, rfl⟩
  | write f hf hphase =>
    refine ⟨⟨h.cancelled, ?_, h.starting, h.building, h.stored⟩, rfl⟩
    rw [process_map hf]
    exact h.not_alive
  | exit code hprocess =>
    refine ⟨⟨h.cancelled, ?_, h.starting, h.building, h.stored⟩, rfl⟩
    rw [process_setProcess]
    cases i.command <;> simp
  | deadline hphase =>
    refine ⟨⟨?_, process_kill_ne_alive, by simp, by simp, ?_⟩, rfl⟩
    · rw [cancelled_kill]
      exact h.cancelled
    · rw [result_kill]
      exact h.stored
  | reap code timedOut hprocess hphase =>
    exact ⟨⟨h.cancelled, h.not_alive, by simp, by simp, h.stored⟩, rfl⟩
  | conclude started timedOut hphase =>
    refine ⟨⟨h.cancelled, h.not_alive, by simp, ?_, h.stored⟩, rfl⟩
    rintro r hr
    rw [← ExecutePhase.building.inj hr]
    exact state_conclude_of_cancelled h.cancelled started timedOut
  | store found result hphase =>
    refine ⟨⟨h.cancelled, h.not_alive, by simp, by simp, ?_⟩, rfl⟩
    rintro r hr
    rw [← Option.some.inj hr]
    exact state_withOutputs (h.building result hphase) found

/-! ### Control requests -/

section

omit [StoreCrypto] [Base64]

lemma Sound.control {starts : Nat} (h : i.Sound starts) (request : ControlRequest) :
    (i.control request).Sound starts := by
  rw [GuestInvocation.control]
  split_ifs with hcancel
  · refine ⟨h.starts_le, fun hun => ?_, fun halive => absurd halive process_kill_ne_alive,
      fun hne => ?_⟩
    · rw [phase_kill] at hun
      obtain ⟨hstarts, hprocess⟩ := h.unstarted hun
      exact ⟨hstarts, process_kill_eq_none hprocess⟩
    · rw [result_kill] at hne
      exact absurd hcancel.2 hne
  · exact h

lemma Stopped.control (h : i.Stopped) (request : ControlRequest) :
    (i.control request).Stopped := by
  rw [GuestInvocation.control]
  split_ifs
  · refine ⟨cancelled_kill, process_kill_ne_alive, ?_, ?_, ?_⟩
    · rw [phase_kill]
      exact h.starting
    · rw [phase_kill]
      exact h.building
    · rw [result_kill]
      exact h.stored
  · exact h

variable {request : ControlRequest}

/-- The goroutine will still read the flag, or has read it. -/
lemma stopped_control (hkind : request.kind = "cancel")
    (hresult : i.result = none) (hstarting : i.phase ≠ .starting false)
    (hbuilding : ∀ r, i.phase = .building r → r.state = .cancelled) :
    (i.control request).Stopped := by
  rw [GuestInvocation.control, if_pos ⟨hkind, hresult⟩]
  refine ⟨cancelled_kill, process_kill_ne_alive, ?_, ?_, ?_⟩
  · rw [phase_kill]
    exact hstarting
  · rw [phase_kill]
    exact hbuilding
  · rw [result_kill, hresult]
    exact fun r hr => nomatch hr

lemma cancelled_control (h : (i.control request).cancelled = true) :
    i.cancelled = true ∨ request.kind = "cancel" ∧ i.result = none := by
  rw [GuestInvocation.control] at h
  split_ifs at h with hcancel
  · exact Or.inr hcancel
  · exact Or.inl h

lemma control_of_result (h : i.result ≠ none) : i.control request = i := by
  rw [GuestInvocation.control, if_neg fun hcancel => h hcancel.2]

end

/-! ### The stored result -/

lemma request_executeStep (h : ExecuteStep trusted i i' n) : i'.request = i.request := by
  cases h with
  | prepare hphase =>
    rw [prepare]
    split_ifs <;> rfl
  | deadline hphase => exact request_kill
  | _ => rfl

lemma cancelled_executeStep (h : ExecuteStep trusted i i' n) : i'.cancelled = i.cancelled := by
  cases h with
  | prepare hphase =>
    rw [prepare]
    split_ifs <;> rfl
  | deadline hphase => exact cancelled_kill
  | _ => rfl

lemma result_executeStep {r : ResultReply} (hsound : i.Sound starts)
    (hresult : i.result = some r) (h : ExecuteStep trusted i i' n) : i'.result = some r := by
  cases h with
  | prepare hphase =>
    rw [prepare]
    split_ifs <;> exact hresult
  | deadline hphase =>
    rw [← hresult]
    exact result_kill
  | store found result hphase =>
    rw [hsound.stored (by simp [hresult])] at hphase
    cases hphase
  | _ => exact hresult

end GuestInvocation

/-! ### Runs -/

namespace Guest

open GuestFileSystem

section Files

variable {φ : Type} [GuestFileSystem φ] [GuestCodec] [StoreCrypto] [Base64]

/-- The frame is a cancel request for the invocation, and no result is stored. -/
def Cancels (s : Guest φ) (content : Bytes) (i : GuestInvocation) : Prop :=
  s.current = some i ∧ i.result = none ∧
    (GuestCodec.unmarshalKind content = some "status" ∨
      GuestCodec.unmarshalKind content = some "cancel") ∧
    ∃ request, i.controlOf content = some request ∧ request.kind = "cancel"

/-- A launch that may be transferred is not rejected once a file of it was opened. A cancel request,
the first of an invocation, does not come between the first critical section of `execute` and the
return of `Start`, or between the second and the third. -/
def Meets (s : Guest φ) : GuestAction → Prop
  | .frame content =>
    (∀ request, s.current = none → GuestCodec.unmarshalKind content = some "launch" →
      launchOf s.files content = some request →
      (performAll s.files (transferSteps request)).1 = false →
      ¬ OpensFile s.files (transferSteps request)) ∧
    ∀ i, s.Cancels content i → i.cancelled = false →
      i.phase ≠ .starting false ∧ ∀ r, i.phase = .building r → r.state = .cancelled
  | _ => True

/-- What is kept by a run from `files` whose steps meet the condition. -/
structure Kept (files : φ) (s : Guest φ) : Prop where
  idle : s.current = none → s.starts = 0 ∧ file s.files = file files
  sound : ∀ i, s.current = some i → i.Sound s.starts
  stopped : ∀ i, s.current = some i → i.cancelled = true → i.Stopped

/-- What a frame can do. -/
inductive FrameStep (s : Guest φ) (content : Bytes) : Guest φ → Option GuestReply → Prop
  | ignored : FrameStep s content s none
  | rejected (request : LaunchRequest) (files : φ) (hidle : s.current = none)
      (hkind : GuestCodec.unmarshalKind content = some "launch")
      (hlaunch : launchOf s.files content = some request)
      (htransfer : performAll s.files (transferSteps request) = (false, files)) :
      FrameStep s content { s with files } none
  | accepted (request : LaunchRequest) (files : φ) (hidle : s.current = none)
      (htransfer : performAll s.files (transferSteps request) = (true, files))
      (reply : Option GuestReply) :
      FrameStep s content { s with files, current := some { request } } reply
  | control (i : GuestInvocation) (request : ControlRequest) (hcurrent : s.current = some i)
      (hkind : GuestCodec.unmarshalKind content = some "status" ∨
        GuestCodec.unmarshalKind content = some "cancel")
      (hcontrol : i.controlOf content = some request) :
      FrameStep s content { s with current := some (i.control request) }
        (match (i.control request).result with
        | none => sendFrame (.running request.invocationId request.invocationDigest
            (i.control request).request.requestDigest)
        | some result => sendFrame (.result result))

variable {s : Guest φ} {content : Bytes}

lemma frameStep_handleControl
    (hkind : GuestCodec.unmarshalKind content = some "status" ∨
      GuestCodec.unmarshalKind content = some "cancel") :
    FrameStep s content (s.handleControl content).1 (s.handleControl content).2 := by
  rw [handleControl]
  split
  · exact .ignored
  · next i hcurrent =>
    split
    · exact .ignored
    · next request hcontrol => exact .control i request hcurrent hkind hcontrol

lemma frameStep_handleLaunch
    (hkind : GuestCodec.unmarshalKind content = some "launch") :
    FrameStep s content (s.handleLaunch content).1 (s.handleLaunch content).2 := by
  rw [handleLaunch]
  split
  · exact .ignored
  · next hidle =>
    split
    · exact .ignored
    · next request hlaunch =>
      split
      · next files htransfer => exact .rejected request files hidle hkind hlaunch htransfer
      · next files htransfer => exact .accepted request files hidle htransfer _

theorem frameStep_handleFrame (s : Guest φ) (content : Bytes) :
    FrameStep s content (s.handleFrame content).1 (s.handleFrame content).2 := by
  rw [handleFrame]
  split
  · next hkind => exact frameStep_handleLaunch hkind
  · next hkind => exact frameStep_handleControl (Or.inl hkind)
  · next hkind => exact frameStep_handleControl (Or.inr hkind)
  · exact .ignored

variable {files : φ} {request : LaunchRequest}

lemma step_launch
    (hidle : s.current = none) (hkind : GuestCodec.unmarshalKind content = some "launch")
    (hlaunch : launchOf s.files content = some request)
    (htransfer : performAll s.files (transferSteps request) = (true, files)) :
    s.step (.frame content) = .ok { s with files, current := some { request } } := by
  simp only [step, handleFrame, hkind, handleLaunch, hidle, hlaunch, htransfer]

variable {a : GuestAction} {s s' : Guest φ}

/-- A step of the guest is a frame or a step of its invocation. -/
theorem step_cases (h : s.step a = .ok s') :
    (∃ content, a = .frame content ∧ s' = (s.handleFrame content).1) ∨
      ∃ i i' n, s.current = some i ∧
        i.ExecuteStep (isTrusted s.files i.request.plan.executable) i' n ∧
        s' = { s with current := some i', starts := s.starts + n } := by
  cases a with
  | frame content =>
    cases h
    exact Or.inl ⟨content, rfl, rfl⟩
  | _ =>
    rw [step] at h
    · split at h
      · cases h
      · next i hcurrent =>
        split at h
        · cases h
        · next i' n hstep =>
          cases h
          exact Or.inr ⟨i, i', n, hcurrent, GuestInvocation.executeStep_of_step hstep, rfl⟩
    · intro content hframe
      cases hframe

omit [GuestCodec] [StoreCrypto] [Base64] in
lemma Kept.init (files : φ) : Kept files { files : Guest φ } :=
  ⟨fun _ => ⟨rfl, rfl⟩, fun _ hi => (nomatch hi), fun _ hi => nomatch hi⟩

lemma Kept.frame {reply : Option GuestReply}
    (h : Kept files s) (hmeets : s.Meets (.frame content)) (hstep : FrameStep s content s' reply) :
    Kept files s' := by
  cases hstep with
  | ignored => exact h
  | rejected request files' hidle hkind hlaunch htransfer =>
    have hopens := hmeets.1 request hidle hkind hlaunch (by rw [htransfer])
    have hfiles := file_performAll hopens
    rw [htransfer] at hfiles
    obtain ⟨hstarts, hfile⟩ := h.idle hidle
    exact ⟨fun _ => ⟨hstarts, hfiles.trans hfile⟩, h.sound, h.stopped⟩
  | accepted request files' hidle htransfer reply =>
    obtain ⟨hstarts, -⟩ := h.idle hidle
    refine ⟨fun hnone => (nomatch hnone), ?_, ?_⟩
    · rintro i hi
      cases hi
      refine ⟨?_, fun _ => ⟨hstarts, rfl⟩, fun halive => (nomatch halive),
        fun hne => absurd rfl hne⟩
      change s.starts ≤ 1
      omega
    · rintro i hi hcancelled
      cases hi
      cases hcancelled
  | control i request hcurrent hkind hcontrol =>
    refine ⟨fun hnone => (nomatch hnone), ?_, ?_⟩
    · rintro j hj
      cases hj
      exact (h.sound i hcurrent).control request
    · rintro j hj hcancelled
      cases hj
      cases hflag : i.cancelled with
      | true => exact (h.stopped i hcurrent hflag).control request
      | false =>
        rcases GuestInvocation.cancelled_control hcancelled with hflag' | ⟨hcancel, hresult⟩
        · rw [hflag] at hflag'
          cases hflag'
        · obtain ⟨hstarting, hbuilding⟩ :=
            hmeets.2 i ⟨hcurrent, hresult, hkind, request, hcontrol, hcancel⟩ hflag
          exact GuestInvocation.stopped_control hcancel hresult hstarting hbuilding

theorem Kept.step (h : Kept files s)
    (hmeets : s.Meets a) (hstep : s.step a = .ok s') : Kept files s' := by
  rcases step_cases hstep with ⟨content, rfl, rfl⟩ | ⟨i, i', n, hcurrent, hexecute, rfl⟩
  · exact h.frame hmeets (frameStep_handleFrame s content)
  · refine ⟨fun hnone => (nomatch hnone), ?_, ?_⟩
    · rintro j hj
      cases hj
      exact (h.sound i hcurrent).executeStep hexecute
    · rintro j hj hcancelled
      cases hj
      rw [GuestInvocation.cancelled_executeStep hexecute] at hcancelled
      exact ((h.stopped i hcurrent hcancelled).executeStep hexecute).1

/-- Every step of a run meets the condition in the state before it. -/
def MeetsAll (s : Guest φ) (actions : List GuestAction) : Prop :=
  ∀ pre a post m, actions = pre ++ a :: post → foldSteps step s pre = .ok m → m.Meets a

lemma meetsAll_nil (s : Guest φ) : MeetsAll s [] := by
  intro pre a post m hsplit
  cases pre <;> cases hsplit

variable {actions : List GuestAction}

lemma MeetsAll.cons {s m : Guest φ}
    (ha : s.Meets a) (hstep : Guest.step s a = .ok m) (h : MeetsAll m actions) :
    MeetsAll s (a :: actions) := by
  intro pre b post m' hsplit hrun
  cases pre with
  | nil =>
    cases hsplit
    cases hrun
    exact ha
  | cons c pre =>
    rw [List.cons_append, List.cons.injEq] at hsplit
    obtain ⟨rfl, hsplit⟩ := hsplit
    obtain ⟨m₁, hm₁, hrun⟩ := foldSteps_cons_eq_ok.mp hrun
    rw [hstep] at hm₁
    cases hm₁
    exact h pre b post m' hsplit hrun

theorem Kept.run (hrun : foldSteps Guest.step { files : Guest φ } actions = .ok s)
    (hmeets : MeetsAll { files : Guest φ } actions) : Kept files s := by
  induction actions using List.reverseRecOn generalizing s with
  | nil =>
    cases hrun
    exact .init files
  | append_singleton actions a ih =>
    obtain ⟨m, hm, ha⟩ := foldSteps_concat_eq_ok.mp hrun
    have hkept : Kept files m := by
      refine ih hm fun pre b post m' hsplit => hmeets pre b (post ++ [a]) m' ?_
      rw [hsplit, List.append_assoc, List.cons_append]
    exact hkept.step (hmeets actions a [] m rfl hm) ha

/-! ### After a result, after a cancel request -/

/-- The invocation has the result. -/
def Stored (r : ResultReply) (request : LaunchRequest) (s : Guest φ) : Prop :=
  ∃ i, s.current = some i ∧ i.request = request ∧ i.result = some r ∧ i.Sound s.starts

lemma Stored.step {r : ResultReply}
    (h : Stored r request s) (hstep : s.step a = .ok s') : Stored r request s' := by
  obtain ⟨i, hcurrent, hrequest, hresult, hsound⟩ := h
  rcases step_cases hstep with ⟨content, rfl, rfl⟩ | ⟨j, i', n, hj, hexecute, rfl⟩
  · have hframe := frameStep_handleFrame s content
    revert hframe
    generalize (s.handleFrame content).1 = s', (s.handleFrame content).2 = reply
    intro hframe
    cases hframe with
    | ignored => exact ⟨i, hcurrent, hrequest, hresult, hsound⟩
    | rejected request files' hidle => exact nomatch hidle.symm.trans hcurrent
    | accepted request files' hidle => exact nomatch hidle.symm.trans hcurrent
    | control j request hj =>
      cases hcurrent.symm.trans hj
      refine ⟨i, ?_, hrequest, hresult, hsound⟩
      rw [GuestInvocation.control_of_result (by simp [hresult])]
  · cases hcurrent.symm.trans hj
    exact ⟨i', rfl, (GuestInvocation.request_executeStep hexecute).trans hrequest,
      GuestInvocation.result_executeStep hsound hresult hexecute, hsound.executeStep hexecute⟩

/-- With a result stored, a reply is that result. -/
lemma Stored.reply {r : ResultReply} (h : Stored r request s)
    {reply : GuestReply} (hreply : (s.handleFrame content).2 = some reply) :
    reply = .result r := by
  obtain ⟨i, hcurrent, -, hresult, -⟩ := h
  have hframe := frameStep_handleFrame s content
  rw [hreply] at hframe
  revert hframe
  generalize (s.handleFrame content).1 = s', hsome : some reply = x
  intro hframe
  cases hframe with
  | ignored => cases hsome
  | rejected request files' hidle => cases hsome
  | accepted request files' hidle => exact nomatch hidle.symm.trans hcurrent
  | control j control hj =>
    cases hcurrent.symm.trans hj
    rw [GuestInvocation.control_of_result (by simp [hresult]), hresult] at hsome
    have hsent : some reply = sendFrame (.result r) := hsome
    rw [sendFrame] at hsent
    split_ifs at hsent
    exact Option.some.inj hsent

/-- The invocation is stopped, and `starts` commands were started. -/
def StoppedAt (starts : Nat) (s : Guest φ) : Prop :=
  s.starts = starts ∧ ∃ i, s.current = some i ∧ i.Stopped

lemma StoppedAt.step {starts : Nat} (h : StoppedAt starts s)
    (hstep : s.step a = .ok s') : StoppedAt starts s' := by
  obtain ⟨hstarts, i, hcurrent, hstopped⟩ := h
  rcases step_cases hstep with ⟨content, rfl, rfl⟩ | ⟨j, i', n, hj, hexecute, rfl⟩
  · have hframe := frameStep_handleFrame s content
    revert hframe
    generalize (s.handleFrame content).1 = s', (s.handleFrame content).2 = reply
    intro hframe
    cases hframe with
    | ignored => exact ⟨hstarts, i, hcurrent, hstopped⟩
    | rejected request files' hidle => exact nomatch hidle.symm.trans hcurrent
    | accepted request files' hidle => exact nomatch hidle.symm.trans hcurrent
    | control j request hj =>
      cases hcurrent.symm.trans hj
      exact ⟨hstarts, _, rfl, hstopped.control request⟩
  · cases hcurrent.symm.trans hj
    obtain ⟨hstopped', hn⟩ := hstopped.executeStep hexecute
    refine ⟨?_, i', rfl, hstopped'⟩
    change s.starts + n = starts
    omega

/-- What every step keeps a run keeps. -/
lemma run_keeps {P : Guest φ → Prop} (hP : ∀ s a s', P s → s.step a = .ok s' → P s')
    (h : P s)
    (hrun : foldSteps step s actions = .ok s') : P s' :=
  foldSteps_induction (P := fun _ s => P s) (fun _ m a m' hm => hP m a m' hm) h hrun

/-! ### What runs guarantee -/

/-- A stored result stays, and every later reply is that result. -/
def ResultStays (s : Guest φ) : Prop :=
  ∀ i r, s.current = some i → i.result = some r → ∀ actions s',
    foldSteps step s actions = .ok s' →
    (∃ i', s'.current = some i' ∧ i'.request = i.request ∧ i'.result = some r) ∧
      ∀ content reply, (s'.handleFrame content).2 = some reply → reply = .result r

/-- A launch that is accepted finds the files that the guest began with. -/
def AcceptsClean (files : φ) (s : Guest φ) : Prop :=
  ∀ content, s.current = none → (s.handleFrame content).1.current ≠ none →
    file s.files = file files

/-- After a cancel request no command is started, none is alive, and a result says `cancelled`. -/
def CancelStops (s : Guest φ) : Prop :=
  ∀ content i, s.Cancels content i → s.Meets (.frame content) → ∀ actions s',
    foldSteps step (s.handleFrame content).1 actions = .ok s' →
    s'.starts = s.starts ∧ ∃ i', s'.current = some i' ∧ i'.process ≠ some .alive ∧
      ∀ r, i'.result = some r → r.state = .cancelled

lemma Kept.resultStays (h : Kept files s) : ResultStays s := by
  intro i r hcurrent hresult actions s' hrun
  have hstored : Stored r i.request s := ⟨i, hcurrent, rfl, hresult, h.sound i hcurrent⟩
  have hstored' := run_keeps (P := Stored r i.request) (fun _ _ _ => Stored.step) hstored hrun
  obtain ⟨i', hcurrent', hrequest', hresult', -⟩ := id hstored'
  exact ⟨⟨i', hcurrent', hrequest', hresult'⟩, fun content reply => hstored'.reply⟩

lemma Cancels.frame {i : GuestInvocation}
    (h : s.Cancels content i) : ∃ request, request.kind = "cancel" ∧
      (s.handleFrame content).1 = { s with current := some (i.control request) } := by
  obtain ⟨hcurrent, hresult, hkind, request, hcontrol, hcancel⟩ := h
  refine ⟨request, hcancel, ?_⟩
  rcases hkind with hkind | hkind
  · simp only [handleFrame, hkind, handleControl, hcurrent, hcontrol]
  · simp only [handleFrame, hkind, handleControl, hcurrent, hcontrol]

lemma Kept.cancelStops (h : Kept files s) : CancelStops s := by
  intro content i hcancels hmeets actions s' hrun
  obtain ⟨request, hcancel, hframe⟩ := hcancels.frame
  have hkept := h.frame hmeets (frameStep_handleFrame s content)
  rw [hframe] at hkept hrun
  have hcancelled : (i.control request).cancelled = true := by
    rw [GuestInvocation.control, if_pos ⟨hcancel, hcancels.2.1⟩]
    exact GuestInvocation.cancelled_kill
  have hstopped : StoppedAt s.starts { s with current := some (i.control request) } :=
    ⟨rfl, _, rfl, hkept.stopped _ rfl hcancelled⟩
  obtain ⟨hstarts, i', hcurrent', hstopped'⟩ :=
    run_keeps (P := StoppedAt s.starts) (fun _ _ _ => StoppedAt.step) hstopped hrun
  exact ⟨hstarts, i', hcurrent', hstopped'.not_alive, hstopped'.stored⟩

/-- In a run whose steps meet the condition: one command at most, one result, no file of a rejected
launch, and cancel requests that stop the invocation. -/
theorem run_guarantees {files : φ} {actions : List GuestAction} {s : Guest φ}
    (hrun : foldSteps step { files : Guest φ } actions = .ok s)
    (hmeets : MeetsAll { files : Guest φ } actions) :
    s.starts ≤ 1 ∧ ResultStays s ∧ AcceptsClean files s ∧ CancelStops s := by
  have hkept := Kept.run hrun hmeets
  refine ⟨?_, hkept.resultStays, fun content hidle _ => (hkept.idle hidle).2, hkept.cancelStops⟩
  cases hcurrent : s.current with
  | none =>
    rw [(hkept.idle hcurrent).1]
    exact Nat.zero_le 1
  | some i => exact (hkept.sound i hcurrent).starts_le

end Files

/-! ### A small guest -/

section Small

def zeroDigest : Digest := "sha256:" ++ String.ofList (List.replicate 64 '0')

def truePlan : InvocationPlan where
  invocationId := "run-1"
  driverDigest := zeroDigest
  executable := "true"
  arguments := []
  workingDirectory := "."
  environment := []
  inputManifestDigest := zeroDigest
  recipe := 0
  outputs := []

def trueLaunch : LaunchRequest where
  kind := "launch"
  schemaVersion := 1
  plan := truePlan
  invocationDigest := "sha256:cce4d42574eaa855742da58419309a7597d4ee060de280e969df59e292f175ee"
  environmentDigest := zeroDigest
  workspace :=
    { target := "/edagym/workspace", readonly := false, rootIsFile := false, rootMode := 0o700
      rootBlob := none, entries := [] }
  artifactTarget := "/edagym/artifacts"
  assets := []
  wallSeconds := 60
  outputLimitBytes := 65536
  requestDigest := "sha256:7da387b6084e0b958575db3f508adf4b7a6e57d84a753a2a521b61466d6ee4f4"

/-- The frame of the launch. -/
def launchJson : CanonicalJson :=
  .obj [("artifact_target", .str "/edagym/artifacts"), ("assets", .arr []),
    ("environment_digest", .str zeroDigest),
    ("invocation_digest", .str trueLaunch.invocationDigest), ("kind", .str "launch"),
    ("output_limit_bytes", .nat 65536),
    ("plan", .obj [("arguments", .arr []), ("capability", .str "simulate"),
      ("driver_digest", .str zeroDigest), ("environment", .arr []), ("executable", .str "true"),
      ("input_manifest_digest", .str zeroDigest), ("invocation_id", .str "run-1"),
      ("outputs", .arr []), ("recipe", .arr []), ("tool_id", .str "sim"),
      ("view", .str "participant"), ("working_directory", .str ".")]),
    ("schema_version", .nat 1), ("wall_seconds", .nat 60),
    ("workspace", .obj [("entries", .arr []), ("readonly", .bool false), ("root_blob", .null),
      ("root_is_file", .bool false), ("root_mode", .nat 448),
      ("target", .str "/edagym/workspace")])]

def cancelRequest : ControlRequest where
  kind := "cancel"
  schemaVersion := 1
  invocationId := "run-1"
  invocationDigest := trueLaunch.invocationDigest

def cancelJson : CanonicalJson :=
  .obj [("invocation_digest", .str trueLaunch.invocationDigest), ("invocation_id", .str "run-1"),
    ("kind", .str "cancel"), ("schema_version", .nat 1)]

def launchFrame : Bytes := utf8 launchJson.render

def cancelFrame : Bytes := utf8 cancelJson.render

def blobJson (blob : InlineBlob) : CanonicalJson :=
  .obj [("digest", .str blob.digest), ("size_bytes", .nat blob.sizeBytes.toNat),
    ("content_base64", .str blob.contentBase64)]

/-- The two frames of the run are read as Go reads them; replies are written in the order of the
fields. -/
@[reducible] def smallCodec : GuestCodec where
  unmarshalKind content :=
    if content = launchFrame then some "launch"
    else if content = cancelFrame then some "cancel"
    else none
  decodeLaunch content := if content = launchFrame then some trueLaunch else none
  decodeControl content := if content = cancelFrame then some cancelRequest else none
  marshal
    | .accepted id digest request => utf8 (CanonicalJson.render (.obj [("kind", .str "accepted"),
        ("schema_version", .nat 1), ("invocation_id", .str id), ("invocation_digest", .str digest),
        ("request_digest", .str request)]))
    | .running id digest request => utf8 (CanonicalJson.render (.obj [("kind", .str "running"),
        ("schema_version", .nat 1), ("invocation_id", .str id), ("invocation_digest", .str digest),
        ("request_digest", .str request)]))
    | .result reply => utf8 (CanonicalJson.render (.obj [("kind", .str "result"),
        ("schema_version", .nat 1), ("invocation_id", .str reply.invocationId),
        ("invocation_digest", .str reply.invocationDigest),
        ("request_digest", .str reply.requestDigest),
        ("environment_digest", .str reply.environmentDigest), ("state", .str reply.state.value),
        ("exit_code", .nat reply.exitCode.toNat),
        ("failure", (reply.failure.map fun f => .str f.value).getD .null),
        ("stdout", blobJson reply.stdout), ("stderr", blobJson reply.stderr),
        ("outputs", .arr (reply.outputs.map fun output =>
          .obj [("logical_id", .str output.logicalId), ("blob", blobJson output.blob)]))]))

/-- Files by their paths; directories are not told apart. -/
@[reducible] def smallFileSystem : GuestFileSystem (List (String × Bytes)) where
  perform
    | .writeFile path content _, files => (true, (path, content) :: files)
    | _, files => (true, files)
  file files path := files.lookup path
  trustedExecutable _ name := if name = "true" then some "/usr/bin/true" else none
  file_perform step files hstep := by
    cases step with
    | writeFile path content mode => exact absurd rfl (hstep path content mode)
    | _ => rfl

/-- SHA-256 and base64 of nothing. -/
@[reducible] def emptyCrypto : StoreCrypto where
  sha256 _ := "sha256:e3b0c44298fc1c149afbf4c8996fb92427ae41e4649b934ca495991b7852b855"
  encrypt _ _ _ plaintext := (plaintext, [])
  decrypt _ _ _ _ payload := some payload

@[reducible] def emptyBase64 : Base64 where
  decodeString value := if value = "" then some [] else none
  encodeToString _ := ""

local instance guestCodec : GuestCodec := smallCodec

local instance guestFiles : GuestFileSystem (List (String × Bytes)) := smallFileSystem

local instance guestCrypto : StoreCrypto := emptyCrypto

local instance guestBase64 : Base64 := emptyBase64

lemma cancelFrame_ne_launchFrame : cancelFrame ≠ launchFrame := by
  intro h
  have hjson := CanonicalJson.render_inj.mp (utf8_inj h)
  simp [cancelJson, launchJson] at hjson

lemma unmarshalKind_launchFrame : GuestCodec.unmarshalKind launchFrame = some "launch" :=
  if_pos rfl

lemma unmarshalKind_cancelFrame : GuestCodec.unmarshalKind cancelFrame = some "cancel" := by
  simp only [GuestCodec.unmarshalKind, if_neg cancelFrame_ne_launchFrame, if_true]

lemma zeroDigest_valid : digestPattern zeroDigest = true := by
  simp [digestPattern, zeroDigest]

lemma validHeader_trueLaunch : validHeader trueLaunch = true := by
  have hinvocation : digestPattern trueLaunch.invocationDigest = true := by
    simp [digestPattern, trueLaunch]
  have hrequest : digestPattern trueLaunch.requestDigest = true := by
    simp [digestPattern, trueLaunch]
  exact decide_eq_true ⟨rfl, rfl, by decide, hinvocation, zeroDigest_valid, zeroDigest_valid,
    zeroDigest_valid, hrequest, by decide, by decide, by decide, by decide, rfl, Or.inl rfl⟩

lemma validLaunch_trueLaunch : validLaunch true trueLaunch = true := by
  refine decide_eq_true ⟨validHeader_trueLaunch, ?_, ?_, rfl, rfl, ?_⟩
  all_goals decide

lemma launchOf_launchFrame (files : List (String × Bytes)) :
    launchOf files launchFrame = some trueLaunch := by
  have hdecode : GuestCodec.decodeLaunch launchFrame = some trueLaunch := if_pos rfl
  rw [launchOf, hdecode, Option.filter_some]
  exact if_pos validLaunch_trueLaunch

lemma controlOf_cancelFrame {i : GuestInvocation} (h : i.request = trueLaunch) :
    i.controlOf cancelFrame = some cancelRequest := by
  have hdecode : GuestCodec.decodeControl cancelFrame = some cancelRequest := if_pos rfl
  rw [GuestInvocation.controlOf, hdecode, Option.filter_some, h]
  exact if_pos (by decide +kernel)

/-- The guest when it has accepted the launch. -/
def acceptedGuest : Guest (List (String × Bytes)) :=
  { files := [], current := some { request := trueLaunch } }

def trueCommand : GuestCommand := { stdout := { limit := 16384 }, stderr := { limit := 16384 } }

/-- The guest when `execute` has gone through its first critical section. -/
def startingGuest : Guest (List (String × Bytes)) :=
  { files := []
    current := some
      { request := trueLaunch, command := some trueCommand, phase := .starting false } }

lemma performAll_trueLaunch :
    performAll ([] : List (String × Bytes)) (transferSteps trueLaunch) = (true, []) := by
  decide +kernel

lemma step_launchFrame :
    step ({ files := [] } : Guest (List (String × Bytes))) (.frame launchFrame) =
      .ok acceptedGuest :=
  step_launch rfl unmarshalKind_launchFrame (launchOf_launchFrame []) performAll_trueLaunch

lemma step_acceptedGuest : acceptedGuest.step .prepare = .ok startingGuest := by
  have htrusted : isTrusted ([] : List (String × Bytes)) "true" = true := by decide +kernel
  have hrequest : trueLaunch.plan.executable = "true" := rfl
  simp only [step, acceptedGuest, hrequest, htrusted, GuestInvocation.step, if_true,
    GuestInvocation.prepare]
  rfl

lemma run_startingGuest :
    foldSteps step ({ files := [] } : Guest (List (String × Bytes)))
      [.frame launchFrame, .prepare] = .ok startingGuest := by
  refine foldSteps_cons_eq_ok.mpr ⟨acceptedGuest, step_launchFrame, ?_⟩
  exact foldSteps_cons_eq_ok.mpr ⟨startingGuest, step_acceptedGuest, rfl⟩

lemma handleFrame_cancelFrame {s : Guest (List (String × Bytes))} {i : GuestInvocation}
    (hcurrent : s.current = some i) (hrequest : i.request = trueLaunch) :
    (s.handleFrame cancelFrame).1 = { s with current := some (i.control cancelRequest) } := by
  simp only [handleFrame, unmarshalKind_cancelFrame, handleControl, hcurrent,
    controlOf_cancelFrame hrequest]

/-- A cancel request that comes between the first critical section and `Start`: the command is
started afterwards and runs. -/
theorem cancel_before_start_is_lost :
    foldSteps step ({ files := [] } : Guest (List (String × Bytes)))
      [.frame launchFrame, .prepare] = .ok startingGuest ∧
    (∃ i, startingGuest.Cancels cancelFrame i) ∧
    ∃ s' i', foldSteps step (startingGuest.handleFrame cancelFrame).1 [.start true] = .ok s' ∧
      s'.starts = startingGuest.starts + 1 ∧ s'.current = some i' ∧
        i'.process = some .alive := by
  refine ⟨run_startingGuest, ⟨_, rfl, rfl, Or.inr unmarshalKind_cancelFrame, cancelRequest,
    controlOf_cancelFrame rfl, rfl⟩, ?_⟩
  rw [handleFrame_cancelFrame rfl rfl]
  exact ⟨_, _, rfl, rfl, rfl, rfl⟩

lemma meets_launchFrame :
    ({ files := [] } : Guest (List (String × Bytes))).Meets (.frame launchFrame) := by
  refine ⟨fun request _ _ hlaunch hfails => ?_, fun i hcancels => nomatch hcancels.1⟩
  rw [launchOf_launchFrame, Option.some.injEq] at hlaunch
  rw [← hlaunch, performAll_trueLaunch] at hfails
  cases hfails

lemma meets_cancelFrame : acceptedGuest.Meets (.frame cancelFrame) := by
  refine ⟨fun request hidle => (nomatch hidle), fun i hcancels _ => ?_⟩
  obtain ⟨hcurrent, -⟩ := hcancels
  cases hcurrent
  exact ⟨by simp, by simp⟩

/-- The same request before the first critical section. -/
theorem run_guarantees_cancelled : ∃ s : Guest (List (String × Bytes)),
    foldSteps step { files := [] } [.frame launchFrame, .frame cancelFrame] = .ok s ∧
      s.starts ≤ 1 ∧ ResultStays s ∧ AcceptsClean [] s ∧ CancelStops s := by
  have hrun : foldSteps step ({ files := [] } : Guest (List (String × Bytes)))
      [.frame launchFrame, .frame cancelFrame] = .ok (acceptedGuest.handleFrame cancelFrame).1 :=
    foldSteps_cons_eq_ok.mpr ⟨acceptedGuest, step_launchFrame, rfl⟩
  exact ⟨_, hrun, run_guarantees hrun (MeetsAll.cons meets_launchFrame step_launchFrame
    (MeetsAll.cons meets_cancelFrame rfl (meetsAll_nil _)))⟩

end Small

end Guest

end EdaGym
