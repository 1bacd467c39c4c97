import EdaGym.Executors.BrokerRuns

/-!
# The fence of an invocation is permanent

What holds in all runs of the brokers on one state root: the domain is defined once at most, a
result stays, the fence has one digest, and once an invocation was cleaned up nothing of it comes
back.
-/

namespace EdaGym

open Setting Setting.Moves

variable {ρ : Type}

abbrev BrokerMachine (ρ : Type) := Machine (BrokerWorld ρ) (BrokerCall ρ) BrokerCall.Answer

/-- The brokers when there is nothing yet. -/
def BrokerMachine.start (ρ : Type) : BrokerMachine ρ := { world := {} }

lemma BrokerMachine.start_good : (brokerMoves ρ).Good (BrokerMachine.start ρ) where
  inv := by
    constructor <;> simp [BrokerMachine.start]
  holder p hp := nomatch hp
  others p hp := nomatch hp

variable {s s' : BrokerWorld ρ}

lemma broker_changes (h : (brokerMoves ρ).Changes s s') : BrokerLocked s s' := by
  rcases h with rfl | h
  · exact .free (.same s)
  · exact brokerMoves_around h

/-- A terminal record stays. -/
lemma BrokerLocked.terminal (h : BrokerLocked s s') {result : ρ}
    (hrecord : s.record = .file (.terminal result)) :
    s'.record = .file (.terminal result) := by
  cases h with
  | free h =>
    cases h with
    | domain => exact hrecord
  | makeDirectory => exact hrecord
  | createFence => exact hrecord
  | createRecord file hdirectory hfence habsent => cases habsent.symm.trans hrecord
  | define => exact hrecord
  | start => exact hrecord
  | write r r' hfence hfile hadvances =>
    cases hfile.symm.trans hrecord
    cases hadvances with
    | terminal _ _ hnone => exact absurd rfl (hnone result)
  | report => exact hrecord

/-- What is seen of the invocation behind its fence. -/
def BrokerReport.Behind (d : String) (r : BrokerReport ρ) : Prop :=
  r = .unknownJob ∨ ∃ machine controlChannel, r = .cleanup d machine controlChannel

/-- Nothing came back since the reports were these. -/
structure BrokerWorld.Gone (d : String) (s before : BrokerWorld ρ) : Prop where
  absent : s.domain = .absent
  definitions : s.definitions = before.definitions
  starts : s.starts = before.starts
  reports : ∃ later, s.reports = before.reports ++ later ∧ ∀ r ∈ later, r.Behind d

/-- What may be reported behind the fence. -/
lemma BrokerInvariant.behind {s : BrokerWorld ρ} (hs : BrokerInvariant s) {d : String}
    {machine controlChannel : Bool} (hmem : .cleanup d machine controlChannel ∈ s.reports)
    {r : BrokerReport ρ} (h : s.Reports r) : r.Behind d := by
  obtain ⟨hfence, htorn⟩ := hs.fenced d machine controlChannel hmem
  cases r with
  | unknownJob => exact Or.inl rfl
  | notCanonical => exact absurd h htorn
  | cleanup d' machine' controlChannel' =>
    cases hfence.symm.trans h.1
    exact Or.inr ⟨machine', controlChannel', rfl⟩
  | launched => cases hfence.symm.trans h
  | owned => cases hfence.symm.trans h
  | state => cases hfence.symm.trans h
  | collected => cases hfence.symm.trans h

lemma BrokerWorld.Gone.locked {before s s' : BrokerWorld ρ} {d : String} {controlChannel : Bool}
    (hmem : .cleanup d false controlChannel ∈ before.reports) (hs : BrokerInvariant s)
    (hgone : s.Gone d before) (h : BrokerLocked s s') : s'.Gone d before := by
  obtain ⟨habsent, hdefinitions, hstarts, later, hreports, hbehind⟩ := hgone
  have hmem' : .cleanup d false controlChannel ∈ s.reports := by
    rw [hreports]
    exact List.mem_append_left later hmem
  have hfence := (hs.fenced d false controlChannel hmem').1
  cases h with
  | free h =>
    cases h with
    | domain domain hd => exact ⟨hd habsent, hdefinitions, hstarts, later, hreports, hbehind⟩
  | makeDirectory => exact ⟨habsent, hdefinitions, hstarts, later, hreports, hbehind⟩
  | createFence file hdirectory hnone => cases hnone.symm.trans hfence
  | createRecord file hdirectory hnone => cases hnone.symm.trans hfence
  | define r hnone => cases hnone.symm.trans hfence
  | start hnone => cases hnone.symm.trans hfence
  | write r r' hnone => cases hnone.symm.trans hfence
  | report r h =>
    refine ⟨habsent, hdefinitions, hstarts, later ++ [r], ?_, fun r' hr' => ?_⟩
    · rw [hreports, List.append_assoc]
    · rcases List.mem_append.mp hr' with hr' | hr'
      · exact hbehind r' hr'
      · rw [List.mem_singleton.mp hr']
        exact hs.behind hmem' h

/-- What can be relied on in a machine whose calls are answered so. -/
structure BrokerMachine.FencePermanent
    (answered : (c : BrokerCall ρ) → BrokerWorld ρ → c.Answer → Prop) (m : BrokerMachine ρ) :
    Prop where
  defined_once : m.world.definitions ≤ 1
  result_stays : ∀ result, m.world.record = .file (.terminal result) →
    ∀ m', (brokerSetting ρ answered).Reaches m m' → m'.world.record = .file (.terminal result)
  one_digest : ∀ d d' machine machine' controlChannel controlChannel',
    .cleanup d machine controlChannel ∈ m.world.reports →
    .cleanup d' machine' controlChannel' ∈ m.world.reports → d = d'
  /-- Once `abandon` has returned and no machine remains, no domain exists, none is defined or
  started, launches are refused and handles are unknown. -/
  gone : ∀ d controlChannel, .cleanup d false controlChannel ∈ m.world.reports →
    ∀ m', (brokerSetting ρ answered).Reaches m m' → m'.world.Gone d m.world

/-- In whatever order the brokers launch, inspect, cancel, collect and abandon, and wherever they
stop, while `virsh` can tell at the end of `abandon` whether the domain is there. -/
theorem broker_fence_permanent {m : BrokerMachine ρ}
    (hrun : (brokerSetting ρ BrokerCall.Truthful).Reaches (BrokerMachine.start ρ) m) :
    m.FencePermanent BrokerCall.Truthful := by
  have hgood := (BrokerMachine.start_good.reaches brokerMoves_checked hrun).1
  refine ⟨hgood.inv.definitions_le, fun result hrecord m' hlater => ?_,
    fun d d' machine machine' controlChannel controlChannel' hd hd' => ?_,
    fun d controlChannel hmem m' hlater => ?_⟩
  · exact hgood.reaches_keeps (K := fun s => s.record = .file (.terminal result))
      brokerMoves_checked (fun s s' _ hmove hk => (broker_changes hmove).terminal hk) hlater
      hrecord
  · have hfence := (hgood.inv.fenced d machine controlChannel hd).1
    cases hfence.symm.trans (hgood.inv.fenced d' machine' controlChannel' hd').1
    rfl
  · exact hgood.reaches_keeps (K := fun s => s.Gone d m.world) brokerMoves_checked
      (fun s s' hs hmove hk => hk.locked hmem hs (broker_changes hmove)) hlater
      ⟨hgood.inv.gone d controlChannel hmem, rfl, rfl, [], (List.append_nil _).symm,
        fun r hr => nomatch hr⟩

/-! ### A guest that is launched and abandoned -/

section Abandoned

variable {answered : (c : BrokerCall Unit) → BrokerWorld Unit → c.Answer → Prop}
  (htruth : ∀ (c : BrokerCall Unit) s r, c.Truthful s r → answered c s r)

/-- The guest of the invocation runs. -/
def launchedWorld : BrokerWorld Unit where
  jobDirectory := true
  record := .file .running
  domain := .active true
  definitions := 1
  starts := 1
  reports := [.launched]

/-- And the invocation is fenced. -/
def fencedWorld : BrokerWorld Unit := { launchedWorld with fence := .file "d" }

variable {s s' : BrokerWorld Unit} {q : Option (Program (BrokerCall Unit) BrokerCall.Answer Unit)}

include htruth in
/-- A call that succeeds. -/
lemma BrokerAct.step {a : BrokerAct Unit} {k : Bool → BrokerProgram Unit Unit}
    (h : a.exec s true s') :
    (brokerSetting Unit answered).Step ⟨s, some (.call (.act a) k), []⟩ ⟨s', some (k true), []⟩ :=
  .call [] (i := BrokerCall.act a) ⟨h, htruth _ _ _ trivial⟩

include htruth in
/-- A question. -/
lemma BrokerCall.step {c : BrokerCall Unit} {r : c.Answer}
    {k : c.Answer → BrokerProgram Unit Unit} (h : c.exec s r s') (ht : c.Truthful s r) :
    (brokerSetting Unit answered).Step ⟨s, some (.call c k), []⟩ ⟨s', some (k r), []⟩ :=
  .call [] (i := c) ⟨h, htruth _ _ _ ht⟩

include htruth in
lemma launchedWorld_reached : (brokerSetting Unit answered).Reaches (BrokerMachine.start Unit)
    ⟨launchedWorld, none, []⟩ := by
  refine .head (.acquire _ _ (Or.inl rfl)) ?_
  refine .head (BrokerAct.step htruth rfl) ?_
  refine .head (BrokerCall.step htruth (c := .fenceExists) (r := false) ⟨rfl, by simp⟩ trivial) ?_
  refine .head (BrokerCall.step htruth (c := .jobDirectoryExists) (r := false) ⟨rfl, by simp⟩
    trivial) ?_
  refine .head (BrokerAct.step htruth ⟨rfl, rfl⟩) ?_
  refine .head (BrokerAct.step htruth rfl) ?_
  refine .head (BrokerAct.step htruth ⟨rfl, rfl⟩) ?_
  refine .head (BrokerAct.step htruth rfl) ?_
  refine .head (BrokerAct.step htruth rfl) ?_
  refine .head (BrokerAct.step htruth rfl) ?_
  refine .head (BrokerAct.step htruth ⟨rfl, rfl⟩) ?_
  refine .head (BrokerAct.step htruth rfl) ?_
  refine .head (BrokerAct.step htruth rfl) ?_
  refine .head (BrokerCall.step htruth (c := .report .launched) (r := ()) rfl trivial) ?_
  exact .head (.unlock _ _ _) .refl

include htruth in
/-- The fence is created, and the domain is to be destroyed. -/
lemma fencedWorld_reached : (brokerSetting Unit answered).Reaches (BrokerMachine.start Unit)
    ⟨fencedWorld, some (do
      BrokerProgram.destroyDomain
      BrokerProgram.reportCleanup "d"), []⟩ := by
  refine (launchedWorld_reached htruth).trans ?_
  refine .head (.acquire _ _ (Or.inr (Or.inr (Or.inr (Or.inr ⟨"d", rfl⟩))))) ?_
  refine .head (BrokerCall.step htruth (c := .jobDirectoryExists) (r := true)
    ⟨rfl, by simp [launchedWorld]⟩ trivial) ?_
  refine .head (BrokerCall.step htruth (c := .fenceExists) (r := false)
    ⟨rfl, by simp [launchedWorld]⟩ trivial) ?_
  refine .head (BrokerAct.step htruth ⟨rfl, rfl⟩) ?_
  refine .head (BrokerCall.step htruth (c := .recordExists) (r := true)
    ⟨rfl, by simp [launchedWorld]⟩ trivial) ?_
  exact .head (BrokerCall.step htruth (c := .loadRecord) (r := some (some .running))
    ⟨rfl, Or.inl rfl⟩ trivial) .refl

end Abandoned

/-- The guest is destroyed, and nothing of the invocation comes back. -/
theorem broker_fence_permanent_abandoned : ∃ m : BrokerMachine Unit,
    (brokerSetting Unit BrokerCall.Truthful).Reaches (BrokerMachine.start Unit) m ∧
      m.world.definitions = 1 ∧ .cleanup "d" false false ∈ m.world.reports ∧
      m.FencePermanent BrokerCall.Truthful := by
  have htruth : ∀ (c : BrokerCall Unit) s r, c.Truthful s r → c.Truthful s r := fun _ _ _ h => h
  have hrun : ∃ p, (brokerSetting Unit BrokerCall.Truthful).Reaches (BrokerMachine.start Unit)
      ⟨{ fencedWorld with domain := .absent, reports := [.launched, .cleanup "d" false false] },
        some p, []⟩ := by
    apply Exists.intro
    refine (fencedWorld_reached htruth).trans ?_
    refine .head (BrokerCall.step htruth (c := .domuuid) (r := some true)
      ⟨rfl, by simp [fencedWorld, launchedWorld]⟩ trivial) ?_
    refine .head (BrokerAct.step htruth rfl) ?_
    refine .head (BrokerCall.step htruth (c := .ask) (r := true) rfl trivial) ?_
    refine .head (BrokerAct.step htruth (Or.inr rfl)) ?_
    refine .head (BrokerAct.step htruth (Or.inr rfl)) ?_
    refine .head (BrokerAct.step htruth rfl) ?_
    refine .head (BrokerAct.step htruth rfl) ?_
    refine .head (BrokerCall.step htruth (c := .domainNameExists) (r := some false)
      ⟨rfl, by simp⟩ fun _ => rfl) ?_
    refine .head (BrokerCall.step htruth (c := .ask) (r := false) rfl trivial) ?_
    exact .head (BrokerCall.step htruth (c := .report _) (r := ()) rfl trivial) .refl
  obtain ⟨p, hrun⟩ := hrun
  exact ⟨_, hrun, rfl, by simp, broker_fence_permanent hrun⟩

/-- `virsh` cannot tell whether the guest is there, and the cleanup says that nothing remains. -/
theorem guest_survives_abandon : ∃ m : BrokerMachine Unit,
    (brokerSetting Unit fun _ _ _ => True).Reaches (BrokerMachine.start Unit) m ∧
      .cleanup "d" false false ∈ m.world.reports ∧ m.world.domain = .active true ∧
      ¬ m.FencePermanent fun _ _ _ => True := by
  have htruth : ∀ (c : BrokerCall Unit) s r, c.Truthful s r → True := fun _ _ _ _ => trivial
  have hrun : ∃ p, (brokerSetting Unit fun _ _ _ => True).Reaches (BrokerMachine.start Unit)
      ⟨{ fencedWorld with reports := [.launched, .cleanup "d" false false] }, some p, []⟩ := by
    apply Exists.intro
    refine (fencedWorld_reached htruth).trans ?_
    refine .head (BrokerCall.step htruth (c := .domuuid) (r := some false)
      ⟨rfl, by simp⟩ trivial) ?_
    refine .head (BrokerAct.step htruth rfl) ?_
    refine .head (.call [] (i := BrokerCall.domainNameExists) (r := some false)
      ⟨⟨rfl, by simp⟩, trivial⟩) ?_
    refine .head (BrokerCall.step htruth (c := .ask) (r := false) rfl trivial) ?_
    exact .head (BrokerCall.step htruth (c := .report _) (r := ()) rfl trivial) .refl
  obtain ⟨p, hrun⟩ := hrun
  refine ⟨_, hrun, by simp, rfl, fun hpermanent => ?_⟩
  have hgone := hpermanent.gone "d" false (by simp) _ .refl
  cases hgone.absent

end EdaGym
