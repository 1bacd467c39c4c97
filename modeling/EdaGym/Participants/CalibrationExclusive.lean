import EdaGym.Participants.CalibrationSafety

/-!
# What calibration channels keep

One container at most runs, a constructor returns to a run without containers, and no channel
touches the container of another one that is open.
-/

namespace EdaGym

/-- At most one container runs. -/
def CalibrationRun.Exclusive (r : CalibrationRun) : Prop :=
  ∀ n n', (r.launches n).container = .running → (r.launches n').container = .running → n = n'

lemma CalibrationInvariant.exclusive {r : CalibrationRun} (h : CalibrationInvariant r) :
    r.Exclusive := by
  intro n n' hn hn'
  obtain ⟨o, howner, hname, -⟩ := h.live n (Or.inl hn)
  obtain ⟨o', howner', hname', -⟩ := h.live n' (Or.inl hn')
  rw [howner] at howner'
  cases howner'
  rw [← hname, ← hname']

variable {r r' : CalibrationRun}

/-- A constructor returns with the owner record cleared, and then nothing is live. -/
lemma CalibrationInvariant.constructed {c : Nat}
    (h : CalibrationInvariant r) (hstep : CalibrationStep r (.constructed c) r') (n : Nat) :
    ¬ (r'.launches n).Live := by
  cases hstep with
  | closing _ _ hstep => cases hstep
  | exchange d hc hstep =>
    cases hstep with
    | constructed hstage =>
      have hholds := h.stage c _ hc
      rw [hstage] at hholds
      exact h.not_live_of_no_owner hholds n

/-- Only the channel with the lifecycle lock touches a container. -/
lemma CalibrationInvariant.touch {c n : Nat} (h : CalibrationInvariant r)
    (hstep : CalibrationStep r (.touch c n) r') : r.lock = some c := by
  have hpermits : r.Permits (.touch c n) := trivial
  cases hstep with
  | closing d hd hstep =>
    have hphase := hstep.phase h hd
    have hheld := h.holder d _ hd hphase
    cases hstep with
    | kill _ _ => exact hheld
    | terminate _ _ => exact hheld
  | exchange d hd hstep =>
    have hphase := hstep.phase h hd hpermits
    have hheld := h.holder d _ hd hphase
    cases hstep <;> exact hheld

/-- In every run in which no process crashes between a launch and its record and no channel starts
an exchange after it gave back the lifecycle lock: one container at most runs, a constructor returns
when nothing runs or will run, and a channel touches no container that another open channel
started. -/
theorem calibration_containers_exclusive {r r' : CalibrationRun} {act : CalibrationAct}
    (hr : CalibrationReachable r) (hstep : CalibrationStep r act r') (hpermits : r.Permits act) :
    r.Exclusive ∧ r'.Exclusive ∧
      (∀ c, act = .constructed c → ∀ n, ¬ (r'.launches n).Live) ∧
      (∀ c n, act = .touch c n → ∀ d ch, r.channels d = some ch → ch.phase = .opened →
        (r.launches n).starter = some d → d = c) := by
  have hinvariant := hr.invariant
  refine ⟨hinvariant.exclusive, (hinvariant.step hstep hpermits).exclusive, ?_, ?_⟩
  · rintro c rfl n
    exact hinvariant.constructed hstep n
  · rintro c n rfl d ch hd hopen _
    have hheld := hinvariant.holder d ch hd (by simp [hopen])
    exact Option.some.inj (hheld.symm.trans (hinvariant.touch hstep))

/-! ### Runs -/

/-- The states of all runs. -/
def CalibrationReaches : CalibrationRun → CalibrationRun → Prop :=
  Relation.ReflTransGen fun r r' => ∃ act, CalibrationStep r act r'

lemma CalibrationReaches.step {r r' r'' : CalibrationRun} {act : CalibrationAct}
    (h : CalibrationReaches r r') (hstep : CalibrationStep r' act r'') : CalibrationReaches r r'' :=
  h.tail ⟨act, hstep⟩

lemma CalibrationReachable.next {act : CalibrationAct}
    (h : CalibrationReachable r) (hstep : CalibrationStep r act r') (hpermits : r.Permits act) :
    CalibrationReachable r' :=
  h.tail ⟨act, hstep, hpermits⟩

/-- A process crashes after it launched its container and before it recorded the launcher. The next
constructor finds no container and returns, and in the end two containers run. -/
lemma unrecorded_launch_survives :
    (∃ r r', CalibrationReaches {} r ∧ CalibrationStep r (.constructed 1) r' ∧
      (r'.launches 0).Live) ∧
    ∃ r, CalibrationReaches {} r ∧ (r.launches 0).container = .running ∧
      (r.launches 1).container = .running := by
  have first : CalibrationReaches {} {} := .refl
  have constructing := first.step (.construct 0 0 rfl rfl)
  have recovered := constructing.step (.exchange 0 rfl (.readNone .construct rfl rfl))
  have opened := recovered.step (.exchange 0 rfl (.constructed rfl))
  have exchanging := opened.step (.exchange 0 rfl (.begin (by decide) rfl))
  have clean := exchanging.step (.exchange 0 rfl (.readNone .exchange rfl rfl))
  have written := clean.step (.exchange 0 rfl (.write 0 rfl rfl rfl))
  have entered := written.step (.exchange 0 rfl (.enter 0 rfl rfl))
  have launched := entered.step (.exchange 0 rfl (.launch 0 rfl))
  have crashed := launched.step (.crash 0)
  have again := crashed.step (.construct 1 1 rfl rfl)
  have found := again.step (.exchange 1 rfl (.readOwner .construct ⟨0, false⟩ rfl rfl))
  have unknown := found.step (.exchange 1 rfl (.terminateUnknown .construct ⟨0, false⟩ rfl rfl))
  have removed := unknown.step (.exchange 1 rfl (.removeOwned .construct ⟨0, false⟩ rfl))
  have cleared := removed.step (.exchange 1 rfl (.clearOwned .construct ⟨0, false⟩ rfl))
  have reopened := cleared.step (.exchange 1 rfl (.constructed rfl))
  refine ⟨⟨_, _, cleared, .exchange 1 rfl (.constructed rfl), by decide⟩, ?_⟩
  have created := reopened.step (.container 0 (.create _ (by decide)))
  have second := created.step (.exchange 1 rfl (.begin (by decide) rfl))
  have secondClean := second.step (.exchange 1 rfl (.readNone .exchange rfl rfl))
  have secondWritten := secondClean.step (.exchange 1 rfl (.write 1 rfl rfl rfl))
  have secondEntered := secondWritten.step (.exchange 1 rfl (.enter 1 rfl rfl))
  have secondLaunched := secondEntered.step (.exchange 1 rfl (.launch 1 rfl))
  have secondCreated := secondLaunched.step (.container 1 (.create _ (by decide)))
  exact ⟨_, secondCreated, rfl, rfl⟩

/-- A channel that was closed starts an exchange while another one is open, and kills that one's
launcher. -/
lemma closed_channel_touches :
    ∃ r r', CalibrationReaches {} r ∧ CalibrationStep r (.touch 0 0) r' ∧
      ∃ ch, r.channels 1 = some ch ∧ ch.phase = .opened ∧ (r.launches 0).starter = some 1 := by
  have first : CalibrationReaches {} {} := .refl
  have constructing := first.step (.construct 0 0 rfl rfl)
  have recovered := constructing.step (.exchange 0 rfl (.readNone .construct rfl rfl))
  have opened := recovered.step (.exchange 0 rfl (.constructed rfl))
  have marked := opened.step (.closing 0 rfl (.markIdle rfl rfl rfl rfl))
  have closing := marked.step (.exchange 0 rfl (.closeLock rfl rfl))
  have released := closing.step (.exchange 0 rfl (.closeReleases .read rfl))
  have other := released.step (.construct 1 1 rfl rfl)
  have otherRecovered := other.step (.exchange 1 rfl (.readNone .construct rfl rfl))
  have otherOpened := otherRecovered.step (.exchange 1 rfl (.constructed rfl))
  have exchanging := otherOpened.step (.exchange 1 rfl (.begin (by decide) rfl))
  have clean := exchanging.step (.exchange 1 rfl (.readNone .exchange rfl rfl))
  have written := clean.step (.exchange 1 rfl (.write 0 rfl rfl rfl))
  have entered := written.step (.exchange 1 rfl (.enter 0 rfl rfl))
  have launched := entered.step (.exchange 1 rfl (.launch 0 rfl))
  have recorded := launched.step (.exchange 1 rfl (.record 0 rfl (by decide)))
  have late := recorded.step (.exchange 0 rfl (.begin (by decide) rfl))
  have found := late.step (.exchange 0 rfl (.readOwner .exchange ⟨0, true⟩ rfl rfl))
  exact ⟨_, _, found, .exchange 0 rfl (.terminateOwned .exchange ⟨0, true⟩ rfl rfl),
    _, rfl, rfl, rfl⟩

/-- A constructor returns to a container that is still to come, two containers run, and a closed
channel kills the launcher of an open one. -/
theorem calibration_containers_overlap :
    (∃ r r', CalibrationReaches {} r ∧ CalibrationStep r (.constructed 1) r' ∧
      (r'.launches 0).Live) ∧
    (∃ r, CalibrationReaches {} r ∧ ¬ r.Exclusive) ∧
    ∃ r r', CalibrationReaches {} r ∧ CalibrationStep r (.touch 0 0) r' ∧
      ∃ ch, r.channels 1 = some ch ∧ ch.phase = .opened ∧ (r.launches 0).starter = some 1 := by
  obtain ⟨hlive, r, hreaches, hzero, hone⟩ := unrecorded_launch_survives
  refine ⟨hlive, ⟨r, hreaches, fun hexclusive => ?_⟩, closed_channel_touches⟩
  cases hexclusive 0 1 hzero hone

/-- The container of an open channel's exchange, when the channel quiesces it. -/
theorem quiesced_container_alone :
    ∃ r r', CalibrationStep r (.touch 0 0) r' ∧ (r.launches 0).container = .running ∧
      r.Exclusive ∧ r'.Exclusive := by
  have first : CalibrationReachable {} := .refl
  have constructing := first.next (.construct 0 0 rfl rfl) trivial
  have recovered := constructing.next (.exchange 0 rfl (.readNone .construct rfl rfl)) trivial
  have opened := recovered.next (.exchange 0 rfl (.constructed rfl)) trivial
  have exchanging := opened.next (.exchange 0 rfl (.begin (by decide) rfl)) rfl
  have clean := exchanging.next (.exchange 0 rfl (.readNone .exchange rfl rfl)) trivial
  have written := clean.next (.exchange 0 rfl (.write 0 rfl rfl rfl)) trivial
  have entered := written.next (.exchange 0 rfl (.enter 0 rfl rfl)) trivial
  have launched := entered.next (.exchange 0 rfl (.launch 0 rfl)) trivial
  have recorded := launched.next (.exchange 0 rfl (.record 0 rfl (by decide))) trivial
  have active := recorded.next (.exchange 0 rfl (.activate 0 rfl)) trivial
  have created := active.next (.container 0 (.create _ (by decide))) trivial
  obtain ⟨hbefore, hafter, -⟩ := calibration_containers_exclusive created
    (.exchange 0 rfl (.quiesceKill 0 rfl)) trivial
  exact ⟨_, _, .exchange 0 rfl (.quiesceKill 0 rfl), rfl, hbefore, hafter⟩

end EdaGym
