import EdaGym.Executors.BrokerSafety
import Mathlib.Tactic.ByContra

/-!
# What the operations of the broker do

Each operation makes the moves of its invocation only: behind a fence it changes nothing but the
domain, and nothing ends there but as an unknown job or as a cleanup.
-/

namespace EdaGym

open Setting Setting.Moves Program

variable {ρ : Type} {P : BrokerWorld ρ → Prop}

/-- An assertion that is not about the domain. -/
def Undisturbed (P : BrokerWorld ρ → Prop) : Prop := ∀ s d, P s → P { s with domain := d }

lemma Undisturbed.stable (h : Undisturbed P) :
    (brokerMoves ρ).Stable (brokerMoves ρ).Beside P := by
  intro s s' _ hmove hp
  cases brokerMoves_beside hmove with
  | domain d _ => exact h s d hp

/-! ### Calls -/

variable {i : BrokerCall ρ}

lemma broker_lingers (hexec : ∀ s r s', i.exec s r s' → i.Truthful s r → BrokerFree s s') :
    (brokerMoves ρ).Lingers i P :=
  ⟨fun _ => True, stable_true, fun _ _ _ => trivial, fun s r s' _ _ h => hexec s r s' h.1 h.2⟩

/-- A question. -/
lemma broker_ask {A : i.Answer → BrokerWorld ρ → Prop}
    (hP : (brokerMoves ρ).Stable (brokerMoves ρ).Beside P)
    (hA : ∀ r, (brokerMoves ρ).Stable (brokerMoves ρ).Beside (A r))
    (hexec : ∀ s r s', i.exec s r s' → i.Truthful s r → s' = s ∧ A r s) :
    (brokerMoves ρ).RunsLocked (perform i) P fun r s => P s ∧ A r s := by
  have hfree : ∀ s r s', i.exec s r s' → i.Truthful s r → BrokerFree s s' := by
    intro s r s' h htruthful
    rw [(hexec s r s' h htruthful).1]
    exact .same s
  refine runs_perform (fun s r s' _ _ h => .free (hfree s r s' h.1 h.2))
    (fun _ _ _ => broker_lingers hfree)
    (fun r s s' hs hmove h => ⟨hP s s' hs hmove h.1, hA r s s' hs hmove h.2⟩)
    (fun s r s' _ hp h => ?_)
  obtain ⟨rfl, ha⟩ := hexec s r s' h.1 h.2
  exact ⟨hp, ha⟩

lemma broker_asks (hP : (brokerMoves ρ).Stable (brokerMoves ρ).Beside P)
    (hexec : ∀ s r s', i.exec s r s' → s' = s) :
    (brokerMoves ρ).RunsLocked (perform i) P fun _ => P :=
  (broker_ask hP (A := fun _ _ => True) (fun _ => stable_true)
    fun s r s' h _ => ⟨hexec s r s' h, trivial⟩).weaken fun _ _ _ h => h.1

lemma broker_check (hP : (brokerMoves ρ).Stable (brokerMoves ρ).Beside P) :
    (brokerMoves ρ).RunsLocked (BrokerProgram.attempt .check) P fun _ => P :=
  (broker_asks hP (i := BrokerCall.act .check) fun _ _ _ h => h).bind
    fun _ => runs_raiseUnless.weaken fun _ _ _ h => h.1

variable {a : BrokerAct ρ}

/-- A call that has the lock or ends with its program. -/
lemma broker_attempt {Q : BrokerWorld ρ → Prop}
    (hlinger : (BrokerCall.act a).lingers = true → (BrokerCall.act a).inherits = true)
    (hQ : Undisturbed Q)
    (hmove : ∀ s r s', BrokerInvariant s → P s → a.exec s r s' →
      BrokerLocked s s' ∧ (r = true → Q s')) :
    (brokerMoves ρ).RunsLocked (BrokerProgram.attempt a) P fun _ => Q := by
  refine Runs.bind (T := fun r s => r = true → Q s) (runs_perform
    (fun s r s' hs hp h => (hmove s r s' hs hp h.1).1)
    (fun _ hl hi => nomatch (hlinger hl).symm.trans hi)
    (fun r => Undisturbed.stable fun s d hq hr => hQ s d (hq hr))
    fun s r s' hs hp h => (hmove s r s' hs hp h.1).2) fun r => ?_
  exact runs_raiseUnless.weaken fun _ _ _ h => h.1 h.2

/-- A command that only ends the domain. -/
lemma broker_free (hP : Undisturbed P) (hexec : ∀ s r s', a.exec s r s' → BrokerFree s s') :
    (brokerMoves ρ).RunsLocked (perform (.act a)) P fun _ => P := by
  refine runs_perform (fun s r s' _ _ h => .free (hexec s r s' h.1))
    (fun _ _ _ => broker_lingers fun s r s' h _ => hexec s r s' h) (fun _ => hP.stable)
    fun s r s' _ hp h => ?_
  cases hexec s r s' h.1 with
  | domain d _ => exact hP s d hp

lemma broker_destroy (s : BrokerWorld ρ) (r : Bool) (s' : BrokerWorld ρ)
    (h : BrokerAct.destroy.exec s r s') : BrokerFree s s' := by
  rcases h with rfl | rfl
  · exact .same _
  · exact .destroy s

lemma broker_undefine (s : BrokerWorld ρ) (r : Bool) (s' : BrokerWorld ρ)
    (h : BrokerAct.undefine.exec s r s') : BrokerFree s s' := by
  rcases h with rfl | rfl
  · exact .same _
  · exact .undefine s

lemma broker_suppress (hP : Undisturbed P) (hexec : ∀ s r s', a.exec s r s' → BrokerFree s s') :
    (brokerMoves ρ).RunsLocked (BrokerProgram.suppress a) P fun _ => P :=
  Runs.bind (broker_free hP hexec) fun _ => broker_check hP.stable

lemma broker_report {r : BrokerReport ρ} {Q : BrokerWorld ρ → Prop} (hQ : Undisturbed Q)
    (h : ∀ s, BrokerInvariant s → P s →
      s.Reports r ∧ Q { s with reports := s.reports ++ [r] }) :
    (brokerMoves ρ).RunsLocked (BrokerProgram.report r) P fun _ => Q := by
  refine Runs.bind (T := fun _ => Q) (runs_perform (fun s _ s' hs hp hexec => ?_)
    (fun _ hl _ => nomatch hl) (fun _ => hQ.stable) fun s _ s' hs hp hexec => ?_)
    fun _ => runs_ret fun _ _ hq => hq
  · obtain rfl : s' = _ := hexec.1
    exact .report r (h s hs hp).1
  · obtain rfl : s' = _ := hexec.1
    exact (h s hs hp).2

/-- The last report. -/
lemma broker_reports {r : BrokerReport ρ} (h : ∀ s, BrokerInvariant s → P s → s.Reports r) :
    (brokerMoves ρ).RunsLocked (BrokerProgram.report r) P fun _ _ => True :=
  broker_report (fun _ _ _ => trivial) fun s hs hp => ⟨h s hs hp, trivial⟩

/-! ### Helpers of the operations -/

lemma domainExists_runs (hP : (brokerMoves ρ).Stable (brokerMoves ρ).Beside P) :
    (brokerMoves ρ).RunsLocked BrokerProgram.domainExists P fun _ => P :=
  Runs.bind (broker_asks hP (i := .domuuid) fun _ _ _ h => h.1) fun answer =>
    Runs.weaken (runs_orFail (x := answer)) fun _ _ _ h => h.1

/-- The answer to the last question of `abandon` is taken for the truth. -/
lemma domainNameExists_runs (hP : (brokerMoves ρ).Stable (brokerMoves ρ).Beside P) :
    (brokerMoves ρ).RunsLocked (perform .domainNameExists) P
      fun answer s => P s ∧ (answer = some false → s.domain = .absent) := by
  refine broker_ask hP (i := .domainNameExists) (fun answer => ?_)
    fun _ _ _ h htruthful => ⟨h.1, htruthful⟩
  intro s s' _ hmove h heq
  cases brokerMoves_beside hmove with
  | domain d hd => exact hd (h heq)

lemma destroyDomain_runs (hP : Undisturbed P) :
    (brokerMoves ρ).RunsLocked BrokerProgram.destroyDomain P fun _ => P := by
  refine Runs.bind (domainExists_runs hP.stable) fun present => ?_
  cases present with
  | false => exact fun _ _ h => h
  | true =>
    refine Runs.bind (broker_check hP.stable) fun _ => ?_
    refine Runs.bind (broker_asks hP.stable (i := .ask) fun _ _ _ h => h) fun alive => ?_
    cases alive with
    | false => exact broker_suppress hP broker_undefine
    | true =>
      refine Runs.bind (Runs.bind (broker_free hP broker_destroy)
        fun _ => runs_raiseUnless.weaken fun _ _ _ h => h.1) fun _ => ?_
      exact broker_suppress hP broker_undefine

lemma destroyUnrecordedDomain_runs (hP : Undisturbed P) :
    (brokerMoves ρ).RunsLocked BrokerProgram.destroyUnrecordedDomain P fun _ => P := by
  refine Runs.bind (domainExists_runs hP.stable) fun present => ?_
  cases present with
  | false => exact fun _ _ h => h
  | true =>
    refine Runs.bind (broker_check hP.stable) fun _ => ?_
    exact Runs.bind (broker_suppress hP broker_destroy)
      fun _ => broker_suppress hP broker_undefine

lemma loadRecord_runs (hP : Undisturbed P) :
    (brokerMoves ρ).RunsLocked BrokerProgram.loadRecord P
      fun answer s => P s ∧ s.record.Loads answer :=
  broker_ask hP.stable (i := BrokerCall.loadRecord) (A := fun answer s => s.record.Loads answer)
    (fun _ => Undisturbed.stable fun _ _ h => h) fun _ _ _ h _ => h

lemma fenceExists_runs (hP : Undisturbed P) :
    (brokerMoves ρ).RunsLocked (perform .fenceExists) P
      fun fenced s => P s ∧ (fenced = true ↔ s.fence ≠ .absent) :=
  broker_ask hP.stable (i := .fenceExists) (A := fun fenced s => fenced = true ↔ s.fence ≠ .absent)
    (fun _ => Undisturbed.stable fun _ _ h => h) fun _ _ _ h _ => h

lemma BrokerFile.Loads.eq_file {f : BrokerFile (LibvirtBrokerRecord ρ)}
    {r : LibvirtBrokerRecord ρ} (h : f.Loads (some (some r))) : f = .file r := by
  cases f with
  | absent => cases h
  | torn => rcases h with h | h <;> cases h
  | file r' => rcases h with h | h <;> cases h; rfl

lemma BrokerFile.Loads.eq_torn {f : BrokerFile (LibvirtBrokerRecord ρ)} (h : f.Loads none) :
    f = .torn := by
  cases f with
  | absent => cases h
  | torn => rfl
  | file r => rcases h with h | h <;> cases h

/-- There is no fence, and the record is this one. -/
def BrokerWorld.Active (r : LibvirtBrokerRecord ρ) (s : BrokerWorld ρ) : Prop :=
  s.fence = .absent ∧ s.record = .file r

lemma active_undisturbed (r : LibvirtBrokerRecord ρ) : Undisturbed (BrokerWorld.Active r) :=
  fun _ _ h => h

/-- `_owned_record` returns before the fence only. -/
lemma ownedRecord_runs (ownExecutor sameHandle : Bool) :
    (brokerMoves ρ).RunsLocked (BrokerProgram.ownedRecord ownExecutor sameHandle)
      (fun _ => True) fun r => BrokerWorld.Active r := by
  have hunknown (α : Type) (P : BrokerWorld ρ → Prop) (Q : α → BrokerWorld ρ → Prop) :
      (brokerMoves ρ).RunsLocked (do BrokerProgram.report .unknownJob; raise) P Q :=
    Runs.bind (broker_reports fun _ _ _ => trivial) fun _ => runs_raise
  cases ownExecutor with
  | false => exact hunknown _ _ _
  | true =>
    refine Runs.bind (loadRecord_runs fun _ _ _ => trivial) fun answer => ?_
    match answer with
    | none =>
      exact Runs.bind (broker_reports fun s _ h => h.2.eq_torn) fun _ => runs_raise
    | some none => exact hunknown _ _ _
    | some (some r) =>
      refine Runs.bind (Runs.mono (fenceExists_runs (P := fun s => s.record = .file r)
        fun _ _ h => h) fun s _ h => h.2.eq_file) fun fenced => ?_
      by_cases hunowned : sameHandle = false ∨ fenced = true
      · simp only [if_pos hunowned]
        exact hunknown _ _ _
      · simp only [if_neg hunowned]
        have hactive (s : BrokerWorld ρ)
            (h : s.record = .file r ∧ (fenced = true ↔ s.fence ≠ .absent)) : s.Active r := by
          refine ⟨?_, h.1⟩
          by_contra hfence
          exact hunowned (Or.inr (h.2.mpr hfence))
        refine Runs.bind (broker_report (active_undisturbed r) fun s _ h =>
          ⟨(hactive s h).1, hactive s h⟩) fun _ => runs_ret fun _ _ h => h

lemma writeRecord_runs {r r' : LibvirtBrokerRecord ρ} (h : r.Advances r') :
    (brokerMoves ρ).RunsLocked (BrokerProgram.attempt (.writeRecord r')) (BrokerWorld.Active r)
      fun _ => BrokerWorld.Active r' := by
  refine broker_attempt (fun hl => nomatch hl) (active_undisturbed r') fun s b s' _ hs hexec => ?_
  have hwrite := BrokerLocked.write r r' hs.1 hs.2 h
  cases b with
  | true =>
    obtain rfl : s' = _ := hexec
    exact ⟨hwrite, fun _ => ⟨hs.1, rfl⟩⟩
  | false =>
    rcases hexec with rfl | rfl
    · exact ⟨.free (.same _), fun hfalse => nomatch hfalse⟩
    · exact ⟨hwrite, fun hfalse => nomatch hfalse⟩

lemma conclude_runs (r : LibvirtBrokerRecord ρ) (hr : ∀ result, r ≠ .terminal result)
    (result : ρ) :
    (brokerMoves ρ).RunsLocked (BrokerProgram.conclude result) (BrokerWorld.Active r)
      fun _ _ => True :=
  Runs.bind (writeRecord_runs (.terminal r result hr)) fun _ => broker_reports fun _ _ h => h.1

/-! ### The operations -/

lemma createRecord_runs :
    (brokerMoves ρ).RunsLocked (BrokerProgram.attempt .createRecord)
      (fun s => s.jobDirectory = true ∧ s.fence = .absent ∧ s.record = .absent)
      fun _ s => s.Active .prepared ∧ s.definitions = 0 := by
  refine broker_attempt (fun hl => nomatch hl) (fun _ _ h => h) fun s b s' hs hp hexec => ?_
  obtain ⟨hdirectory, hfence, hrecord⟩ := hp
  have hnone : s.definitions = 0 := hs.unrecorded fun r hr => by cases hrecord.symm.trans hr
  cases b with
  | true =>
    obtain ⟨-, rfl⟩ := hexec
    exact ⟨.createRecord _ hdirectory hfence hrecord (Or.inr rfl), fun _ => ⟨⟨hfence, rfl⟩, hnone⟩⟩
  | false =>
    refine ⟨?_, fun hfalse => nomatch hfalse⟩
    rcases hexec with rfl | ⟨-, rfl | rfl⟩
    · exact .free (.same _)
    · exact .createRecord _ hdirectory hfence hrecord (Or.inl rfl)
    · exact .createRecord _ hdirectory hfence hrecord (Or.inr rfl)

lemma define_runs :
    (brokerMoves ρ).RunsLocked (BrokerProgram.attempt .define)
      (fun s => s.Active .prepared ∧ s.definitions = 0) fun _ => BrokerWorld.Active .prepared := by
  refine broker_attempt (fun _ => rfl) (active_undisturbed _) fun s b s' _ hp hexec => ?_
  obtain ⟨hactive, hnone⟩ := hp
  have hdefine := BrokerLocked.define .prepared hactive.1 hactive.2 hnone
  cases b with
  | true =>
    obtain rfl : s' = _ := hexec
    exact ⟨hdefine, fun _ => hactive⟩
  | false =>
    rcases hexec with rfl | rfl
    · exact ⟨.free (.same _), fun hfalse => nomatch hfalse⟩
    · exact ⟨hdefine, fun hfalse => nomatch hfalse⟩

lemma start_runs :
    (brokerMoves ρ).RunsLocked (BrokerProgram.attempt .start) (BrokerWorld.Active .defined)
      fun _ => BrokerWorld.Active .defined := by
  refine broker_attempt (fun _ => rfl) (active_undisturbed _) fun s b s' _ hactive hexec => ?_
  cases b with
  | true =>
    obtain ⟨hdomain, rfl⟩ := hexec
    exact ⟨.start hactive.1 hdomain, fun _ => hactive⟩
  | false =>
    refine ⟨?_, fun hfalse => nomatch hfalse⟩
    rcases hexec with rfl | ⟨hdomain, rfl⟩
    · exact .free (.same _)
    · exact .start hactive.1 hdomain

theorem broker_launch_runs :
    (brokerMoves ρ).RunsLocked BrokerProgram.launch (fun _ => True) fun _ _ => True := by
  refine Runs.bind (broker_check stable_true) fun _ => ?_
  refine Runs.bind (fenceExists_runs fun _ _ _ => trivial) fun fenced => ?_
  refine Runs.bind runs_raiseUnless fun _ => ?_
  have hunfenced (s : BrokerWorld ρ)
      (h : (True ∧ (fenced = true ↔ s.fence ≠ .absent)) ∧ fenced = false) :
      s.fence = .absent := by
    by_contra hfence
    cases h.2.symm.trans (h.1.2.mpr hfence)
  refine Runs.bind (Runs.mono (broker_ask (P := fun s => s.fence = .absent)
    (Undisturbed.stable fun _ _ h => h) (i := .jobDirectoryExists)
    (A := fun present s => present = true ↔ s.jobDirectory = true)
    (fun _ => Undisturbed.stable fun _ _ h => h) fun _ _ _ h _ => h)
    fun s _ h => hunfenced s h) fun present => ?_
  refine Runs.bind runs_raiseUnless fun _ => ?_
  refine Runs.bind (broker_attempt (Q := fun s => s.jobDirectory = true ∧ s.fence = .absent ∧
    s.record = .absent) (fun hl => nomatch hl) (fun _ _ h => h) fun s b s' hs hp hexec => ?_)
    fun _ => ?_
  · cases b with
    | true =>
      obtain ⟨hdirectory, rfl⟩ := hexec
      exact ⟨.makeDirectory, fun _ => ⟨rfl, hs.unprepared hdirectory⟩⟩
    | false =>
      obtain rfl : s' = _ := hexec
      exact ⟨.free (.same _), fun hfalse => nomatch hfalse⟩
  refine Runs.bind (broker_check (Undisturbed.stable fun _ _ h => h)) fun _ => ?_
  refine Runs.bind createRecord_runs fun _ => ?_
  refine Runs.bind (broker_check (Undisturbed.stable fun _ _ h => h)) fun _ => ?_
  refine Runs.bind define_runs fun _ => ?_
  refine Runs.bind (writeRecord_runs .defined) fun _ => ?_
  refine Runs.bind start_runs fun _ => ?_
  refine Runs.bind (broker_check (active_undisturbed _).stable) fun _ => ?_
  exact Runs.bind (writeRecord_runs .running) fun _ => broker_reports fun _ _ h => h.1

theorem broker_inspect_runs (ownExecutor sameHandle : Bool) (lost : ρ) :
    (brokerMoves ρ).RunsLocked (BrokerProgram.inspect ownExecutor sameHandle lost)
      (fun _ => True) fun _ _ => True := by
  refine Runs.bind (ownedRecord_runs ownExecutor sameHandle) fun r => ?_
  have hactive := (active_undisturbed r).stable
  cases r with
  | terminal result => exact broker_reports fun _ _ h => h.1
  | _ =>
    refine Runs.bind (domainExists_runs hactive) fun present => ?_
    cases present with
    | false =>
      exact Runs.bind (broker_check hactive) fun _ => conclude_runs _ (fun _ h => by cases h) lost
    | true =>
      refine Runs.bind (broker_check hactive) fun _ => ?_
      refine Runs.bind (broker_asks hactive (i := .exchange) fun _ _ _ h => h) fun answer => ?_
      refine Runs.bind runs_orFail fun reply => ?_
      cases reply with
      | none => exact broker_reports fun _ _ h => h.1.1
      | some result =>
        exact Runs.mono (conclude_runs _ (fun _ h => by cases h) result) fun _ _ h => h.1

theorem broker_cancel_runs (ownExecutor sameHandle : Bool) (cancelled : ρ) :
    (brokerMoves ρ).RunsLocked (BrokerProgram.cancel ownExecutor sameHandle cancelled)
      (fun _ => True) fun _ _ => True := by
  refine Runs.bind (ownedRecord_runs ownExecutor sameHandle) fun r => ?_
  have hrest (hr : ∀ result, r ≠ .terminal result) : (brokerMoves ρ).RunsLocked (do
      let present ← BrokerProgram.domainExists
      if present = true then do
        BrokerProgram.attempt .check
        let _ ← perform .exchange
        BrokerProgram.destroyDomain
        BrokerProgram.attempt .check
        BrokerProgram.conclude cancelled
      else do
        BrokerProgram.attempt .check
        BrokerProgram.conclude cancelled) (BrokerWorld.Active r) fun _ _ => True := by
    have hactive := (active_undisturbed r).stable
    refine Runs.bind (domainExists_runs hactive) fun present => ?_
    cases present with
    | false =>
      exact Runs.bind (broker_check hactive) fun _ => conclude_runs r hr cancelled
    | true =>
      refine Runs.bind (broker_check hactive) fun _ => ?_
      refine Runs.bind (broker_asks hactive (i := .exchange) fun _ _ _ h => h) fun _ => ?_
      refine Runs.bind (destroyDomain_runs (active_undisturbed r)) fun _ => ?_
      exact Runs.bind (broker_check hactive) fun _ => conclude_runs r hr cancelled
  cases r with
  | terminal result => exact broker_reports fun _ _ h => h.1
  | prepared => exact hrest fun _ h => nomatch h
  | defined => exact hrest fun _ h => nomatch h
  | running => exact hrest fun _ h => nomatch h

theorem broker_collect_runs (ownExecutor sameHandle : Bool) :
    (brokerMoves ρ).RunsLocked (BrokerProgram.collect ownExecutor sameHandle)
      (fun _ => True) fun _ _ => True := by
  refine Runs.bind (ownedRecord_runs ownExecutor sameHandle) fun r => ?_
  cases r with
  | terminal result =>
    exact Runs.bind (destroyDomain_runs (active_undisturbed _))
      fun _ => broker_reports fun _ _ h => h.1
  | prepared => exact runs_raise
  | defined => exact runs_raise
  | running => exact runs_raise

/-! ### Abandonment -/

lemma requireDirectory_runs :
    (brokerMoves ρ).RunsLocked BrokerProgram.requireDirectory (fun _ => True)
      fun _ s => s.jobDirectory = true := by
  refine Runs.bind (broker_ask stable_true (i := .jobDirectoryExists)
    (A := fun present s => present = true → s.jobDirectory = true)
    (fun _ => Undisturbed.stable fun _ _ h => h) fun s present s' h _ => ⟨h.1, h.2.mp⟩)
    fun present => ?_
  cases present with
  | true => exact fun _ _ h => h.2 rfl
  | false =>
    refine broker_attempt (fun hl => nomatch hl) (fun _ _ h => h) fun s b s' _ _ hexec => ?_
    cases b with
    | true =>
      obtain ⟨-, rfl⟩ := hexec
      exact ⟨.makeDirectory, fun _ => rfl⟩
    | false =>
      obtain rfl : s' = _ := hexec
      exact ⟨.free (.same _), fun hfalse => nomatch hfalse⟩

lemma requireFence_runs (lifecycleFenceDigest : String) :
    (brokerMoves ρ).RunsLocked (BrokerProgram.requireFence lifecycleFenceDigest)
      (fun s => s.jobDirectory = true) fun d s => s.fence = .file d := by
  refine Runs.bind (fenceExists_runs (P := fun s => s.jobDirectory = true) fun _ _ h => h)
    fun fenced => ?_
  cases fenced with
  | true =>
    refine Runs.bind (Runs.mono (broker_ask stable_true (i := .loadFence)
      (A := fun answer s => ∀ d, answer = some d → s.fence = .file d)
      (fun _ => Undisturbed.stable fun _ _ h => h) fun _ _ _ h _ => h) fun _ _ _ => trivial)
      fun answer => ?_
    exact Runs.weaken runs_orFail fun d s _ h => h.1.2 d h.2
  | false =>
    refine Runs.bind (broker_attempt (Q := fun s => s.fence = .file lifecycleFenceDigest)
      (fun hl => nomatch hl) (fun _ _ h => h) fun s b s' _ hp hexec => ?_)
      fun _ => runs_ret fun _ _ h => h
    cases b with
    | true =>
      obtain ⟨hfence, rfl⟩ := hexec
      exact ⟨.createFence _ hp.1 hfence, fun _ => rfl⟩
    | false =>
      refine ⟨?_, fun hfalse => nomatch hfalse⟩
      rcases hexec with rfl | ⟨hfence, rfl | rfl⟩
      · exact .free (.same _)
      · exact .createFence _ hp.1 hfence
      · exact .createFence _ hp.1 hfence

/-- The fence is there, and the record is not torn. -/
def BrokerWorld.Fenced (d : String) (s : BrokerWorld ρ) : Prop :=
  s.fence = .file d ∧ s.record ≠ .torn

lemma fenced_undisturbed (d : String) : Undisturbed (BrokerWorld.Fenced (ρ := ρ) d) :=
  fun _ _ h => h

lemma reportCleanup_runs (d : String) :
    (brokerMoves ρ).RunsLocked (BrokerProgram.reportCleanup d) (BrokerWorld.Fenced d)
      fun _ _ => True := by
  refine Runs.bind (broker_check (fenced_undisturbed d).stable) fun _ => ?_
  refine Runs.bind (domainNameExists_runs (fenced_undisturbed d).stable) fun answer => ?_
  refine Runs.bind runs_orFail fun machine => ?_
  refine Runs.bind (broker_asks (i := .ask) ?_ fun _ _ _ h => h) fun controlChannel => ?_
  · intro s s' _ hmove h
    cases brokerMoves_beside hmove with
    | domain domain hd => exact ⟨⟨h.1.1, fun heq => hd (h.1.2 heq)⟩, h.2⟩
  · refine broker_reports fun _ _ h => ⟨h.1.1.1, h.1.1.2, ?_⟩
    rintro rfl
    exact h.1.2 h.2

theorem broker_abandon_runs (lifecycleFenceDigest : String) :
    (brokerMoves ρ).RunsLocked (BrokerProgram.abandon lifecycleFenceDigest) (fun _ => True)
      fun _ _ => True := by
  refine Runs.bind requireDirectory_runs fun _ => ?_
  refine Runs.bind (requireFence_runs lifecycleFenceDigest) fun d => ?_
  refine Runs.bind (broker_ask (Undisturbed.stable (P := fun s => s.fence = .file d)
    fun _ _ h => h) (i := .recordExists) (A := fun present s => present = false →
      s.record = .absent) (fun _ => Undisturbed.stable fun _ _ h => h)
    fun s present s' h _ => ⟨h.1, fun heq => ?_⟩) fun present => ?_
  · by_contra hpresent
    cases heq.symm.trans (h.2.mpr hpresent)
  cases present with
  | false =>
    refine Runs.bind (Runs.mono (destroyUnrecordedDomain_runs (fenced_undisturbed d))
      fun s _ h => ⟨h.1, fun htorn => ?_⟩) fun _ => reportCleanup_runs d
    cases (h.2 rfl).symm.trans htorn
  | true =>
    refine Runs.bind (Runs.mono (loadRecord_runs (P := fun s => s.fence = .file d)
      fun _ _ h => h) fun _ _ h => h.1) fun answer => Runs.bind runs_orFail fun found => ?_
    cases found with
    | none => exact Runs.bind (broker_reports fun _ _ _ => trivial) fun _ => runs_raise
    | some r =>
      refine Runs.bind (Runs.mono (destroyDomain_runs (fenced_undisturbed d))
        fun s _ h => ⟨h.1.1, fun htorn => ?_⟩) fun _ => reportCleanup_runs d
      obtain ⟨⟨-, hloads⟩, rfl⟩ := h
      cases hloads.eq_file.symm.trans htorn

theorem brokerMoves_checked : (brokerMoves ρ).Checked where
  locked := by
    rintro p (rfl | ⟨ownExecutor, sameHandle, lost, rfl⟩ | ⟨ownExecutor, sameHandle, cancelled, rfl⟩
      | ⟨ownExecutor, sameHandle, rfl⟩ | ⟨lifecycleFenceDigest, rfl⟩)
    · exact broker_launch_runs
    · exact broker_inspect_runs ownExecutor sameHandle lost
    · exact broker_cancel_runs ownExecutor sameHandle cancelled
    · exact broker_collect_runs ownExecutor sameHandle
    · exact broker_abandon_runs lifecycleFenceDigest
  free _ hfalse := hfalse.elim

end EdaGym
