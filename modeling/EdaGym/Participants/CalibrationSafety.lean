import EdaGym.Participants.CalibrationProtocol
import Mathlib.Tactic.ByContra
import Mathlib.Tactic.SplitIfs

/-!
# Exclusive calibration containers

The channel that holds the lifecycle lock is the only one that acts, and the owner record names the
one container that can run. So it is in every run in which no process crashes before its launch is
recorded and no closed channel starts an exchange; a run without the first of these leaves a
container behind.
-/

namespace EdaGym

/-! ### What steps do to a container -/

namespace ContainerLaunch

/-- Nothing new comes to live. -/
structure Calms (l l' : ContainerLaunch) : Prop where
  live : l'.Live → l.Live
  pending : l'.Pending → l.Pending
  launcher : l'.launcher = true → l.launcher = true

lemma Calms.refl (l : ContainerLaunch) : Calms l l := ⟨id, id, id⟩

lemma calms_stop (l : ContainerLaunch) : Calms l l.stop := by
  have hpending : l.stop.Pending → l.Pending := by
    rintro ⟨hlauncher, habsent⟩
    refine ⟨hlauncher, ?_⟩
    rw [stop] at habsent
    dsimp only at habsent
    split_ifs at habsent
    exact habsent
  refine ⟨?_, hpending, id⟩
  rintro (hrunning | h)
  · rw [stop] at hrunning
    dsimp only at hrunning
    split_ifs at hrunning with hrun
    exact absurd hrunning hrun
  · exact Or.inr (hpending h)

lemma calms_terminate (l : ContainerLaunch) : Calms l l.terminate := by
  refine ⟨?_, ?_, ?_⟩
  · rintro (hrunning | ⟨hfalse, -⟩)
    · exact Or.inl hrunning
    · cases hfalse
  · rintro ⟨hfalse, -⟩
    cases hfalse
  · intro hfalse
    cases hfalse

lemma calms_of_step {l l' : ContainerLaunch} (h : ContainerStep l l') : Calms l l' := by
  cases h with
  | create h =>
    refine ⟨fun _ => Or.inr h, ?_, id⟩
    rintro ⟨-, habsent⟩
    cases habsent
  | exit => exact calms_stop l
  | launcherEnds => exact calms_terminate l

lemma not_pending_terminate (l : ContainerLaunch) : ¬ l.terminate.Pending := by
  rintro ⟨hfalse, -⟩
  cases hfalse

/-- A container without a launcher to come is gone when it is removed. -/
lemma not_live_stop {l : ContainerLaunch} (h : ¬ l.Pending) : ¬ l.stop.Live := by
  rintro (hrunning | hpending)
  · rw [stop] at hrunning
    dsimp only at hrunning
    split_ifs at hrunning with hrun
    exact hrun hrunning
  · exact h ((calms_stop l).pending hpending)

end ContainerLaunch

open ContainerLaunch

/-! ### The invariant -/

/-- What the exchange lock's thread knows of the owner record and its container. -/
def StageHolds (owner : Option ActiveContainerOwner) (launches : Nat → ContainerLaunch) :
    ChannelStage → Prop
  | .idle | .recover .read _ => True
  | .recover (.terminate o) _ => owner = some o
  | .recover (.remove o) _ => owner = some o ∧ ¬ (launches o.containerName).Pending
  | .recover (.clear o) _ => owner = some o ∧ ¬ (launches o.containerName).Live
  | .recover .done _ => owner = none
  | .enter n | .refused n | .start n => owner = some ⟨n, false⟩ ∧ ¬ (launches n).Live
  | .launched n => owner = some ⟨n, false⟩
  | .recorded n | .waiting n | .quiesced n => owner = some ⟨n, true⟩
  | .failed n => owner = some ⟨n, false⟩ ∧ ¬ (launches n).Pending
  | .ending n => owner = some ⟨n, true⟩ ∧ ¬ (launches n).Pending
  | .failedClear n => owner = some ⟨n, false⟩ ∧ ¬ (launches n).Live
  | .cleared n => owner = some ⟨n, true⟩ ∧ ¬ (launches n).Live
  | .finishing _ => owner = none

lemma StageHolds.calm {owner : Option ActiveContainerOwner}
    {launches launches' : Nat → ContainerLaunch} {stage : ChannelStage}
    (h : StageHolds owner launches stage)
    (hcalms : ∀ n, Calms (launches n) (launches' n)) : StageHolds owner launches' stage := by
  cases stage with
  | recover recovery caller =>
    cases recovery with
    | remove o => exact ⟨h.1, fun hpending => h.2 ((hcalms _).pending hpending)⟩
    | clear o => exact ⟨h.1, fun hlive => h.2 ((hcalms _).live hlive)⟩
    | _ => exact h
  | enter n => exact ⟨h.1, fun hlive => h.2 ((hcalms _).live hlive)⟩
  | refused n => exact ⟨h.1, fun hlive => h.2 ((hcalms _).live hlive)⟩
  | start n => exact ⟨h.1, fun hlive => h.2 ((hcalms _).live hlive)⟩
  | failed n => exact ⟨h.1, fun hpending => h.2 ((hcalms _).pending hpending)⟩
  | ending n => exact ⟨h.1, fun hpending => h.2 ((hcalms _).pending hpending)⟩
  | failedClear n => exact ⟨h.1, fun hlive => h.2 ((hcalms _).live hlive)⟩
  | cleared n => exact ⟨h.1, fun hlive => h.2 ((hcalms _).live hlive)⟩
  | _ => exact h

/-- The owner record names what is live; while an unrecorded launcher may create its container, the
thread that launched it is still there. -/
def LiveOwned (owner : Option ActiveContainerOwner) (launches : Nat → ContainerLaunch)
    (launched : Nat → Prop) : Prop :=
  ∀ n, (launches n).Live → ∃ o, owner = some o ∧ o.containerName = n ∧
    (o.launched = false → (launches n).Pending → launched n)

/-- One thread is in `close`: before it has the exchange lock, or after. -/
structure ClosingHolds (ch : CalibrationCommandChannel) : Prop where
  closed : ch.closing ≠ .none → ch.closed = true
  recovers : ∀ recovery, ch.stage = .recover recovery .close →
    ch.closed = true ∧ ch.closing = .none

lemma ClosingHolds.stage {ch ch' : CalibrationCommandChannel} (h : ClosingHolds ch)
    (hclosed : ch'.closed = ch.closed) (hclosing : ch'.closing = ch.closing)
    (hstage : ∀ recovery, ch'.stage = .recover recovery .close →
      ∃ recovery', ch.stage = .recover recovery' .close) : ClosingHolds ch' where
  closed hne := by
    rw [hclosing] at hne
    rw [hclosed, h.closed hne]
  recovers recovery hrecover := by
    obtain ⟨recovery', hbefore⟩ := hstage recovery hrecover
    rw [hclosed, hclosing]
    exact h.recovers recovery' hbefore

structure CalibrationInvariant (r : CalibrationRun) : Prop where
  holder : ∀ c ch, r.channels c = some ch → ch.phase ≠ .released → r.lock = some c
  locked : ∀ c, r.lock = some c → ∃ ch, r.channels c = some ch ∧ ch.phase ≠ .released
  released : ∀ c ch, r.channels c = some ch → ch.phase = .released →
    ch.stage = .idle ∧ ch.closing = .none
  live : LiveOwned r.owner r.launches fun n =>
    ∃ c ch, r.channels c = some ch ∧ ch.stage = .launched n
  stage : ∀ c ch, r.channels c = some ch → StageHolds r.owner r.launches ch.stage
  closing : ∀ c ch, r.channels c = some ch → ClosingHolds ch

namespace CalibrationInvariant

variable {r : CalibrationRun} {c : Nat} {ch ch' : CalibrationCommandChannel}

lemma phase_of_stage (h : CalibrationInvariant r) (hc : r.channels c = some ch)
    (hstage : ch.stage ≠ .idle) : ch.phase ≠ .released := by
  intro hreleased
  exact hstage (h.released c ch hc hreleased).1

lemma phase_of_closing (h : CalibrationInvariant r) (hc : r.channels c = some ch)
    (hclosing : ch.closing ≠ .none) : ch.phase ≠ .released := by
  intro hreleased
  exact hclosing (h.released c ch hc hreleased).2

/-- Beside the channel with the lock, all are released. -/
lemma others_released (h : CalibrationInvariant r) (hc : r.channels c = some ch)
    (hphase : ch.phase ≠ .released) {d : Nat} {other : CalibrationCommandChannel}
    (hd : r.channels d = some other) (hne : d ≠ c) : other.phase = .released := by
  by_contra hother
  have hlock := h.holder d other hd hother
  rw [h.holder c ch hc hphase] at hlock
  exact hne (Option.some.inj hlock).symm

/-- What is live was launched by the channel with the lock, or is recorded. -/
lemma live_of_holder (h : CalibrationInvariant r) (hc : r.channels c = some ch)
    (hphase : ch.phase ≠ .released) :
    LiveOwned r.owner r.launches fun n => ch.stage = .launched n := by
  intro n hlive
  obtain ⟨o, howner, hname, hlaunched⟩ := h.live n hlive
  refine ⟨o, howner, hname, ?_⟩
  intro hfalse hpending
  obtain ⟨d, other, hd, hstage⟩ := hlaunched hfalse hpending
  by_cases hdc : d = c
  · subst hdc
    rw [hc] at hd
    cases hd
    exact hstage
  · have hreleased := h.others_released hc hphase hd hdc
    rw [(h.released d other hd hreleased).1] at hstage
    cases hstage

/-- The channel with the lock makes a step. -/
lemma update (h : CalibrationInvariant r) (r' : CalibrationRun) (hc : r.channels c = some ch)
    (hphase : ch.phase ≠ .released) (hlock : r'.lock = r.lock)
    (hchannels : r'.channels = r.channels)
    (hphase' : ch'.phase ≠ .released)
    (hclosing : ClosingHolds ch')
    (hlive : LiveOwned r'.owner r'.launches fun n => ch'.stage = .launched n)
    (hstage : StageHolds r'.owner r'.launches ch'.stage) :
    CalibrationInvariant (r'.set c ch') := by
  have hheld := h.holder c ch hc hphase
  have hset : (r'.set c ch').channels = Function.update r.channels c (some ch') := by
    rw [← hchannels]
    rfl
  have hself : (r'.set c ch').channels c = some ch' := by rw [hset, Function.update_self]
  have hothers : ∀ d other, d ≠ c → (r'.set c ch').channels d = some other →
      (other.phase = .released ∧ other.stage = .idle ∧ other.closing = .none) ∧
        ClosingHolds other := by
    intro d other hne hd
    rw [hset, Function.update_of_ne hne] at hd
    have hreleased := h.others_released hc hphase hd hne
    exact ⟨⟨hreleased, h.released d other hd hreleased⟩, h.closing d other hd⟩
  refine ⟨?_, ?_, ?_, ?_, ?_, ?_⟩
  · intro d other hd hother
    by_cases hdc : d = c
    · rw [hdc]
      exact hlock.trans hheld
    · exact absurd (hothers d other hdc hd).1.1 hother
  · intro d hd
    have hdc : c = d := Option.some.inj ((hlock.trans hheld).symm.trans hd)
    subst hdc
    exact ⟨ch', hself, hphase'⟩
  · intro d other hd hother
    by_cases hdc : d = c
    · subst hdc
      rw [hself] at hd
      cases hd
      exact absurd hother hphase'
    · exact (hothers d other hdc hd).1.2
  · intro n hn
    obtain ⟨o, howner, hname, hlaunched⟩ := hlive n hn
    exact ⟨o, howner, hname, fun hfalse hpending => ⟨c, ch', hself, hlaunched hfalse hpending⟩⟩
  · intro d other hd
    by_cases hdc : d = c
    · subst hdc
      rw [hself] at hd
      cases hd
      exact hstage
    · rw [(hothers d other hdc hd).1.2.1]
      trivial
  · intro d other hd
    by_cases hdc : d = c
    · subst hdc
      rw [hself] at hd
      cases hd
      exact hclosing
    · exact (hothers d other hdc hd).2

/-- A step after which the owner record is the same and nothing new is live. -/
lemma calm (h : CalibrationInvariant r) (r' : CalibrationRun) (hc : r.channels c = some ch)
    (hphase : ch.phase ≠ .released) (hlock : r'.lock = r.lock)
    (hchannels : r'.channels = r.channels)
    (howner : r'.owner = r.owner) (hcalms : ∀ n, Calms (r.launches n) (r'.launches n))
    (hphase' : ch'.phase ≠ .released) (hclosing : ClosingHolds ch')
    (hlaunched : ∀ n, ch.stage = .launched n → ch'.stage = .launched n)
    (hstage : StageHolds r'.owner r'.launches ch'.stage) : CalibrationInvariant (r'.set c ch') := by
  refine h.update r' hc hphase hlock hchannels hphase' hclosing ?_ hstage
  intro n hlive
  obtain ⟨o, ho, hname, hfalse⟩ := h.live_of_holder hc hphase n ((hcalms n).live hlive)
  exact ⟨o, howner.trans ho, hname, fun hf hpending =>
    hlaunched n (hfalse hf ((hcalms n).pending hpending))⟩

/-- A step that clears the owner record of a container that is not live. -/
lemma cleared (h : CalibrationInvariant r) (hc : r.channels c = some ch)
    (hphase : ch.phase ≠ .released) {o : ActiveContainerOwner} (howner : r.owner = some o)
    (hdead : ¬ (r.launches o.containerName).Live) (hphase' : ch'.phase ≠ .released)
    (hclosing : ClosingHolds ch')
    (hstage : StageHolds none r.launches ch'.stage) :
    CalibrationInvariant ({ r with owner := none }.set c ch') := by
  refine h.update ({ r with owner := none }) hc hphase rfl rfl hphase' hclosing ?_ hstage
  intro n hlive
  obtain ⟨o', ho', hname, -⟩ := h.live n hlive
  rw [howner] at ho'
  cases ho'
  rw [← hname] at hlive
  exact absurd hlive hdead

lemma not_live_of_no_owner (h : CalibrationInvariant r) (howner : r.owner = none) (n : Nat) :
    ¬ (r.launches n).Live := by
  intro hlive
  obtain ⟨o, ho, -⟩ := h.live n hlive
  rw [howner] at ho
  cases ho

/-- The channel with the lock gives it back. -/
lemma release (h : CalibrationInvariant r) (hc : r.channels c = some ch)
    (hphase : ch.phase ≠ .released) {recovery : OwnerRecovery}
    (hstage : ch.stage = .recover recovery .close) :
    CalibrationInvariant ({ r with lock := none }.set c
      { ch with phase := .released, stage := .idle }) := by
  have hclosing := h.closing c ch hc
  have hall : ∀ d other, Function.update r.channels c
      (some { ch with phase := .released, stage := .idle }) d = some other →
      (other.phase = .released ∧ other.stage = .idle ∧ other.closing = .none) ∧
        ClosingHolds other := by
    intro d other hd
    by_cases hdc : d = c
    · subst hdc
      rw [Function.update_self] at hd
      cases hd
      exact ⟨⟨rfl, rfl, (hclosing.recovers recovery hstage).2⟩, hclosing.stage rfl rfl (by simp)⟩
    · rw [Function.update_of_ne hdc] at hd
      have hreleased := h.others_released hc hphase hd hdc
      exact ⟨⟨hreleased, h.released d other hd hreleased⟩, h.closing d other hd⟩
  refine ⟨?_, nofun, fun d other hd _ => (hall d other hd).1.2, ?_, ?_,
    fun d other hd => (hall d other hd).2⟩
  · intro d other hd hother
    exact absurd (hall d other hd).1.1 hother
  · intro n hlive
    obtain ⟨o, howner, hname, hthread⟩ := h.live_of_holder hc hphase n hlive
    refine ⟨o, howner, hname, fun hfalse hpending => ?_⟩
    have hlaunched := hthread hfalse hpending
    rw [hstage] at hlaunched
    cases hlaunched
  · intro d other hd
    rw [(hall d other hd).1.2.1]
    trivial

end CalibrationInvariant

@[simp] lemma CalibrationRun.launches_launch_self (r : CalibrationRun) (name : Nat)
    (l : ContainerLaunch) : (r.launch name l).launches name = l := Function.update_self ..

lemma CalibrationRun.launches_launch_of_ne (r : CalibrationRun) {name n : Nat}
    (l : ContainerLaunch) (hn : n ≠ name) : (r.launch name l).launches n = r.launches n :=
  Function.update_of_ne hn ..

lemma calms_launch (launches : Nat → ContainerLaunch) {name : Nat} {l : ContainerLaunch}
    (h : Calms (launches name) l) (n : Nat) :
    Calms (launches n) (Function.update launches name l n) := by
  by_cases hn : n = name
  · subst hn
    rw [Function.update_self]
    exact h
  · rw [Function.update_of_ne hn]
    exact Calms.refl _

/-! ### Steps -/

section Steps

variable {r r' : CalibrationRun} {c : Nat} {ch : CalibrationCommandChannel} {act : CalibrationAct}

lemma CalibrationInvariant.container (h : CalibrationInvariant r) {name : Nat} {l : ContainerLaunch}
    (hstep : ContainerStep (r.launches name) l) : CalibrationInvariant (r.launch name l) := by
  have hcalms := calms_launch r.launches (calms_of_step hstep)
  refine ⟨h.holder, h.locked, h.released, ?_, ?_, h.closing⟩
  · intro n hlive
    obtain ⟨o, howner, hname, hthread⟩ := h.live n ((hcalms n).live hlive)
    exact ⟨o, howner, hname, fun hfalse hpending => hthread hfalse ((hcalms n).pending hpending)⟩
  · intro d other hd
    exact (h.stage d other hd).calm hcalms

/-- The thread in `close` is in a channel that is not released. -/
lemma ClosingStep.phase (hstep : ClosingStep c r ch act r') (h : CalibrationInvariant r)
    (hc : r.channels c = some ch) : ch.phase ≠ .released := by
  cases hstep with
  | markIdle hopen _ _ _ => simp [hopen]
  | markActive name hopen _ _ _ => simp [hopen]
  | kill name hclosing => exact h.phase_of_closing hc (by simp [hclosing])
  | terminate name hclosing => exact h.phase_of_closing hc (by simp [hclosing])

lemma CalibrationInvariant.closingStep (h : CalibrationInvariant r) (hc : r.channels c = some ch)
    (hstep : ClosingStep c r ch act r') : CalibrationInvariant r' := by
  have hphase := hstep.phase h hc
  have hstage := h.stage c ch hc
  have hclosing := h.closing c ch hc
  cases hstep with
  | markIdle _ hclosed _ _ =>
    refine h.calm r hc hphase rfl rfl rfl (fun _ => .refl _) hphase ⟨fun _ => rfl, ?_⟩
      (fun _ => id) hstage
    intro recovery hrecover
    rw [(hclosing.recovers recovery hrecover).1] at hclosed
    cases hclosed
  | markActive name _ hclosed _ _ =>
    refine h.calm r hc hphase rfl rfl rfl (fun _ => .refl _) hphase ⟨fun _ => rfl, ?_⟩
      (fun _ => id) hstage
    intro recovery hrecover
    rw [(hclosing.recovers recovery hrecover).1] at hclosed
    cases hclosed
  | kill name hkill =>
    have hcalms := calms_launch r.launches (calms_stop (r.launches name))
    have hclosed := hclosing.closed (by simp [hkill])
    refine h.calm (r.launch name _) hc hphase rfl rfl rfl hcalms hphase
      ⟨fun _ => hclosed, ?_⟩ (fun _ => id) (hstage.calm hcalms)
    intro recovery hrecover
    rw [(hclosing.recovers recovery hrecover).2] at hkill
    cases hkill
  | terminate name hterminate =>
    have hcalms := calms_launch r.launches (calms_terminate (r.launches name))
    have hclosed := hclosing.closed (by simp [hterminate])
    refine h.calm (r.launch name _) hc hphase rfl rfl rfl hcalms hphase
      ⟨fun _ => hclosed, ?_⟩ (fun _ => id) (hstage.calm hcalms)
    intro recovery hrecover
    rw [(hclosing.recovers recovery hrecover).2] at hterminate
    cases hterminate

/-- The thread with the exchange lock is in a channel that is not released. -/
lemma ExchangeStep.phase (hstep : ExchangeStep c r ch act r') (h : CalibrationInvariant r)
    (hc : r.channels c = some ch) (hpermits : r.Permits act) : ch.phase ≠ .released := by
  by_cases hidle : ch.stage = .idle
  · cases hstep with
    | closeLock hclosing _ => exact h.phase_of_closing hc (by simp [hclosing])
    | begin _ _ =>
      obtain ⟨other, hother, hphase⟩ := h.locked c hpermits
      rw [hc] at hother
      cases hother
      exact hphase
    | _ => simp_all
  · exact h.phase_of_stage hc hidle

lemma CalibrationInvariant.exchange (h : CalibrationInvariant r) (hc : r.channels c = some ch)
    (hstep : ExchangeStep c r ch act r') (hpermits : r.Permits act) : CalibrationInvariant r' := by
  have hphase := hstep.phase h hc hpermits
  have hstage := h.stage c ch hc
  have hclosing := h.closing c ch hc
  have hstop := fun n => calms_launch r.launches (calms_stop (r.launches n))
  have hterminate := fun n => calms_launch r.launches (calms_terminate (r.launches n))
  cases hstep with
  | readNone caller hread howner =>
    exact h.calm r hc hphase rfl rfl rfl (fun _ => .refl _) hphase
      (hclosing.stage rfl rfl (by simp [hread])) (by simp [hread]) howner
  | readOwner caller o hread howner =>
    exact h.calm r hc hphase rfl rfl rfl (fun _ => .refl _) hphase
      (hclosing.stage rfl rfl (by simp [hread])) (by simp [hread]) howner
  | terminateOwned caller o hread hlaunched =>
    rw [hread] at hstage
    refine h.calm (r.launch _ _) hc hphase rfl rfl rfl (hterminate _) hphase
      (hclosing.stage rfl rfl (by simp [hread])) (by simp [hread])
      ⟨hstage, ?_⟩
    rw [CalibrationRun.launches_launch_self]
    exact not_pending_terminate _
  | terminateUnknown caller o hread hlaunched =>
    rw [hread] at hstage
    refine h.calm r hc hphase rfl rfl rfl (fun _ => .refl _) hphase
      (hclosing.stage rfl rfl (by simp [hread])) (by simp [hread]) ⟨hstage, ?_⟩
    -- an unrecorded launcher would still have its thread, and this one is elsewhere
    intro hpending
    obtain ⟨o', howner, -, hthread⟩ := h.live_of_holder hc hphase _ (Or.inr hpending)
    have hsame : some o' = some o := howner.symm.trans hstage
    cases hsame
    have hlaunch := hthread hlaunched hpending
    rw [hread] at hlaunch
    cases hlaunch
  | removeOwned caller o hread =>
    rw [hread] at hstage
    refine h.calm (r.launch _ _) hc hphase rfl rfl rfl (hstop _) hphase
      (hclosing.stage rfl rfl (by simp [hread])) (by simp [hread])
      ⟨hstage.1, ?_⟩
    rw [CalibrationRun.launches_launch_self]
    exact not_live_stop hstage.2
  | clearOwned caller o hread =>
    rw [hread] at hstage
    exact h.cleared hc hphase hstage.1 hstage.2 hphase
      (hclosing.stage rfl rfl (by simp [hread])) rfl
  | constructed hread =>
    exact h.calm r hc hphase rfl rfl rfl (fun _ => .refl _) (by simp)
      (hclosing.stage rfl rfl (by simp)) (by simp [hread]) trivial
  | closeLock hlock hidle =>
    refine h.calm r hc hphase rfl rfl rfl (fun _ => .refl _) hphase ⟨fun hne => absurd rfl hne, ?_⟩
      (by simp [hidle]) trivial
    intro recovery _
    exact ⟨hclosing.closed (by simp [hlock]), rfl⟩
  | closeReleases recovery hread => exact h.release hc hphase hread
  | begin hconstructed hidle =>
    exact h.calm r hc hphase rfl rfl rfl (fun _ => .refl _) hphase
      (hclosing.stage rfl rfl (by simp)) (by simp [hidle]) trivial
  | reject recovery hread =>
    exact h.calm r hc hphase rfl rfl rfl (fun _ => .refl _) hphase
      (hclosing.stage rfl rfl (by simp [hread])) (by simp [hread]) trivial
  | write name hread howner hfresh =>
    refine h.update (CalibrationRun.launch { r with owner := some ⟨name, false⟩ } name
      { r.launches name with named := true }) hc hphase rfl rfl hphase
      (hclosing.stage rfl rfl (by simp)) ?_ ⟨rfl, ?_⟩
    · intro n hlive
      have hcalms : Calms (r.launches name) { r.launches name with named := true } := ⟨id, id, id⟩
      exact absurd ((calms_launch r.launches hcalms n).live hlive) (h.not_live_of_no_owner howner n)
    · rw [CalibrationRun.launches_launch_self]
      exact h.not_live_of_no_owner howner name
  | enter name hread hclosed =>
    rw [hread] at hstage
    exact h.calm r hc hphase rfl rfl rfl (fun _ => .refl _) hphase
      (hclosing.stage rfl rfl (by simp [hread])) (by simp [hread]) hstage
  | refuse name hread hclosed =>
    rw [hread] at hstage
    exact h.calm r hc hphase rfl rfl rfl (fun _ => .refl _) hphase
      (hclosing.stage rfl rfl (by simp [hread])) (by simp [hread]) hstage
  | clearRefused name hread =>
    rw [hread] at hstage
    exact h.cleared hc hphase hstage.1 hstage.2 hphase
      (hclosing.stage rfl rfl (by simp [hread])) trivial
  | launch name hread =>
    rw [hread] at hstage
    refine h.update (r.launch name _) hc hphase rfl rfl hphase
      (hclosing.stage rfl rfl (by simp)) ?_ hstage.1
    intro n hlive
    by_cases hn : n = name
    · exact ⟨⟨name, false⟩, hstage.1, hn.symm, fun _ _ => by rw [hn]⟩
    · have hsame : (r.launches n).Live := by
        rwa [CalibrationRun.launches_launch_of_ne _ _ hn] at hlive
      obtain ⟨o, howner, hname, -⟩ := h.live n hsame
      have hfirst : some o = some ⟨name, false⟩ := howner.symm.trans hstage.1
      cases hfirst
      exact absurd hname.symm hn
  | launchFails name hread =>
    rw [hread] at hstage
    exact h.calm r hc hphase rfl rfl rfl (fun _ => .refl _) hphase
      (hclosing.stage rfl rfl (by simp [hread])) (by simp [hread])
      ⟨hstage.1, fun hpending => hstage.2 (Or.inr hpending)⟩
  | record name hread howner =>
    rw [hread] at hstage
    refine h.update ({ r with owner := some ⟨name, true⟩ }) hc hphase rfl rfl hphase
      (hclosing.stage rfl rfl (by simp)) ?_ rfl
    intro n hlive
    obtain ⟨o, ho, hname, -⟩ := h.live n hlive
    have hfirst : some o = some ⟨name, false⟩ := ho.symm.trans hstage
    cases hfirst
    exact ⟨⟨name, true⟩, rfl, hname, nofun⟩
  | recordFails name hread =>
    rw [hread] at hstage
    refine h.update (r.launch name _) hc hphase rfl rfl hphase
      (hclosing.stage rfl rfl (by simp)) ?_ ⟨hstage, ?_⟩
    · intro n hlive
      obtain ⟨o, howner, hname, -⟩ := h.live n ((hterminate name n).live hlive)
      refine ⟨o, howner, hname, fun _ hpending => ?_⟩
      have hfirst : some o = some ⟨name, false⟩ := howner.symm.trans hstage
      cases hfirst
      subst hname
      rw [CalibrationRun.launches_launch_self] at hpending
      exact absurd hpending (not_pending_terminate _)
    · rw [CalibrationRun.launches_launch_self]
      exact not_pending_terminate _
  | removeFailed name hread =>
    rw [hread] at hstage
    refine h.calm (r.launch _ _) hc hphase rfl rfl rfl (hstop _) hphase
      (hclosing.stage rfl rfl (by simp [hread])) (by simp [hread])
      ⟨hstage.1, ?_⟩
    rw [CalibrationRun.launches_launch_self]
    exact not_live_stop hstage.2
  | clearFailed name hread =>
    rw [hread] at hstage
    exact h.cleared hc hphase hstage.1 hstage.2 hphase
      (hclosing.stage rfl rfl (by simp [hread])) trivial
  | activate name hread =>
    rw [hread] at hstage
    exact h.calm r hc hphase rfl rfl rfl (fun _ => .refl _) hphase
      (hclosing.stage rfl rfl (by simp [hread])) (by simp [hread]) hstage
  | ended name hread hlauncher =>
    rw [hread] at hstage
    refine h.calm r hc hphase rfl rfl rfl (fun _ => .refl _) hphase
      (hclosing.stage rfl rfl (by simp [hread])) (by simp [hread]) ⟨hstage, ?_⟩
    rintro ⟨htrue, -⟩
    rw [hlauncher] at htrue
    cases htrue
  | quiesceKill name hread =>
    rw [hread] at hstage
    exact h.calm (r.launch _ _) hc hphase rfl rfl rfl (hstop _) hphase
      (hclosing.stage rfl rfl (by simp [hread])) (by simp [hread]) hstage
  | quiesceTerminate name hread =>
    rw [hread] at hstage
    refine h.calm (r.launch _ _) hc hphase rfl rfl rfl (hterminate _) hphase
      (hclosing.stage rfl rfl (by simp [hread])) (by simp [hread])
      ⟨hstage, ?_⟩
    rw [CalibrationRun.launches_launch_self]
    exact not_pending_terminate _
  | remove name hread =>
    rw [hread] at hstage
    refine h.calm (r.launch _ _) hc hphase rfl rfl rfl (hstop _) hphase
      (hclosing.stage rfl rfl (by simp [hread])) (by simp [hread])
      ⟨hstage.1, ?_⟩
    rw [CalibrationRun.launches_launch_self]
    exact not_live_stop hstage.2
  | clear name hread =>
    rw [hread] at hstage
    exact h.cleared hc hphase hstage.1 hstage.2 hphase
      (hclosing.stage rfl rfl (by simp [hread])) rfl
  | finish name hread =>
    exact h.calm r hc hphase rfl rfl rfl (fun _ => .refl _) hphase
      (hclosing.stage rfl rfl (by simp [hread])) (by simp [hread]) trivial

/-- A constructor takes the free lock. -/
lemma CalibrationInvariant.construct (h : CalibrationInvariant r) (process : Nat)
    (hlock : r.lock = none) :
    CalibrationInvariant ({ r with lock := some c }.set c { process := process }) := by
  have hreleased : ∀ d other, r.channels d = some other → other.phase = .released := by
    intro d other hd
    by_contra hphase
    rw [h.holder d other hd hphase] at hlock
    cases hlock
  have hself : Function.update r.channels c (some { process := process }) c =
      some { process := process } := Function.update_self ..
  have hother : ∀ d other, d ≠ c →
      Function.update r.channels c (some { process := process }) d = some other →
      r.channels d = some other := by
    intro d other hne hd
    rwa [Function.update_of_ne hne] at hd
  refine ⟨?_, ?_, ?_, ?_, ?_, ?_⟩
  · intro d other hd hphase
    by_cases hdc : d = c
    · rw [hdc]
      rfl
    · exact absurd (hreleased d other (hother d other hdc hd)) hphase
  · intro d hd
    cases hd
    exact ⟨_, hself, by simp⟩
  · intro d other hd hphase
    by_cases hdc : d = c
    · subst hdc
      cases hself.symm.trans hd
      cases hphase
    · exact h.released d other (hother d other hdc hd) hphase
  · intro n hlive
    obtain ⟨o, howner, hname, hthread⟩ := h.live n hlive
    refine ⟨o, howner, hname, fun hfalse hpending => ?_⟩
    obtain ⟨d, other, hd, hstage⟩ := hthread hfalse hpending
    rw [(h.released d other hd (hreleased d other hd)).1] at hstage
    cases hstage
  · intro d other hd
    by_cases hdc : d = c
    · subst hdc
      cases hself.symm.trans hd
      trivial
    · exact h.stage d other (hother d other hdc hd)
  · intro d other hd
    by_cases hdc : d = c
    · subst hdc
      cases hself.symm.trans hd
      exact ⟨fun hne => absurd rfl hne, nofun⟩
    · exact h.closing d other (hother d other hdc hd)

/-- Channels go away, the one with the lock among them if the lock is free afterwards, and none that
stands between a launch and its record. -/
lemma CalibrationInvariant.gone (h : CalibrationInvariant r) {lock : Option Nat}
    {channels : Nat → Option CalibrationCommandChannel}
    (hsub : ∀ d other, channels d = some other → r.channels d = some other)
    (hlock : ∀ d other, channels d = some other → r.lock = some d → lock = some d)
    (hfree : ∀ d, lock = some d → r.lock = some d ∧ ∀ other, r.channels d = some other →
      channels d = some other)
    (hlaunched : ∀ d other n, r.channels d = some other → other.stage = .launched n →
      channels d = some other) :
    CalibrationInvariant { r with lock := lock, channels := channels } := by
  refine ⟨?_, ?_, fun d other hd => h.released d other (hsub d other hd), ?_,
    fun d other hd => h.stage d other (hsub d other hd),
    fun d other hd => h.closing d other (hsub d other hd)⟩
  · intro d other hd hphase
    exact hlock d other hd (h.holder d other (hsub d other hd) hphase)
  · intro d hd
    obtain ⟨hheld, hstays⟩ := hfree d hd
    obtain ⟨other, hother, hphase⟩ := h.locked d hheld
    exact ⟨other, hstays other hother, hphase⟩
  · intro n hlive
    obtain ⟨o, howner, hname, hthread⟩ := h.live n hlive
    refine ⟨o, howner, hname, fun hfalse hpending => ?_⟩
    obtain ⟨d, other, hd, hstage⟩ := hthread hfalse hpending
    exact ⟨d, other, hlaunched d other n hd hstage, hstage⟩

lemma CalibrationInvariant.abandon (h : CalibrationInvariant r) (hc : r.channels c = some ch)
    {recovery : OwnerRecovery} (hstage : ch.stage = .recover recovery .construct) :
    CalibrationInvariant
      { r with lock := none, channels := Function.update r.channels c none } := by
  have hphase := h.phase_of_stage hc (by simp [hstage])
  have hheld := h.holder c ch hc hphase
  have hsub : ∀ d other, Function.update r.channels c none d = some other →
      d ≠ c ∧ r.channels d = some other := by
    intro d other hd
    by_cases hdc : d = c
    · rw [hdc, Function.update_self] at hd
      cases hd
    · rw [Function.update_of_ne hdc] at hd
      exact ⟨hdc, hd⟩
  refine h.gone (fun d other hd => (hsub d other hd).2) ?_ nofun ?_
  · intro d other hd hlock
    rw [hheld] at hlock
    exact absurd (Option.some.inj hlock).symm (hsub d other hd).1
  · intro d other n hd hlaunched
    have hdc : d ≠ c := by
      rintro rfl
      rw [hc] at hd
      cases hd
      rw [hstage] at hlaunched
      cases hlaunched
    rw [Function.update_of_ne hdc]
    exact hd

lemma CalibrationInvariant.crash (h : CalibrationInvariant r) {process : Nat}
    (hpermits : r.Permits (.crash process)) : CalibrationInvariant (r.crash process) := by
  refine h.gone ?_ ?_ ?_ ?_
  · intro d other hd
    exact (Option.filter_eq_some_iff.mp hd).1
  · intro d other hd hlock
    obtain ⟨hchannel, hprocess⟩ := Option.filter_eq_some_iff.mp hd
    refine Option.filter_eq_some_iff.mpr ⟨hlock, ?_⟩
    simpa [hchannel] using hprocess
  · intro d hd
    obtain ⟨hheld, hprocess⟩ := Option.filter_eq_some_iff.mp hd
    refine ⟨hheld, fun other hother => Option.filter_eq_some_iff.mpr ⟨hother, ?_⟩⟩
    simpa [hother] using hprocess
  · intro d other n hd hlaunched
    refine Option.filter_eq_some_iff.mpr ⟨hd, ?_⟩
    rw [decide_eq_true_eq]
    intro hprocess
    exact hpermits d other hd hprocess n hlaunched

lemma CalibrationInvariant.step (h : CalibrationInvariant r) (hstep : CalibrationStep r act r')
    (hpermits : r.Permits act) : CalibrationInvariant r' := by
  cases hstep with
  | container name hstep => exact h.container hstep
  | closing c hc hstep => exact h.closingStep hc hstep
  | exchange c hc hstep => exact h.exchange hc hstep hpermits
  | construct c process hc hlock => exact h.construct process hlock
  | abandon c recovery hc hstage => exact h.abandon hc hstage
  | crash process => exact h.crash hpermits

end Steps

lemma CalibrationReachable.invariant {r : CalibrationRun} (h : CalibrationReachable r) :
    CalibrationInvariant r := by
  induction h with
  | refl =>
    have hnone : ∀ c ch, ({} : CalibrationRun).channels c ≠ some ch := by
      intro c ch h
      cases h
    refine ⟨fun c ch h => absurd h (hnone c ch), ?_, fun c ch h => absurd h (hnone c ch), ?_,
      fun c ch h => absurd h (hnone c ch), fun c ch h => absurd h (hnone c ch)⟩
    · intro c h
      cases h
    rintro n (hrunning | ⟨hlauncher, -⟩)
    · cases hrunning
    · cases hlauncher
  | tail _ hstep ih =>
    obtain ⟨act, hstep, hpermits⟩ := hstep
    exact ih.step hstep hpermits

end EdaGym
