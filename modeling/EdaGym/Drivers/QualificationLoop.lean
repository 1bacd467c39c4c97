import EdaGym.Drivers.Qualification

/-!
# How the command loop ends

A command ends in one of five ways, and only one of them lets the loop go on. So a run is a number
of uneventful commands, and then either the end of the fixture or one command that ends otherwise.
-/

namespace EdaGym

namespace QualificationCall

variable (call : QualificationCall)

/-! ### What can happen at a command -/

/-- A tool is not launched when one of its revalidations has failed. -/
def ChangedBefore (invocation : FixtureInvocation) (b : CommandBehaviour) : Prop :=
  invocation.isTool = true ∧
    (b.closureBefore && call.deploymentValid b.deploymentBefore && call.assetsValid b.assetsBefore)
      = false

/-- Nothing stands in the way of a launch. -/
structure Launched (invocation : FixtureInvocation) (b : CommandBehaviour) : Prop where
  unchanged : ¬ call.ChangedBefore invocation b
  executable : b.executable = true
  trusted : invocation.isTool = true → call.trustedPath = true → b.trusted = true

/-- What holding the mounts of a site container raises. -/
def mountError (b : CommandBehaviour) : Option String :=
  if call.siteContainer then b.mountError else none

def ClosureChangedAfter (invocation : FixtureInvocation) (b : CommandBehaviour) : Prop :=
  invocation.isTool = true ∧ (b.closureAfter && call.deploymentValid b.deploymentAfter) = false

def AssetChangedAfter (b : CommandBehaviour) : Prop := call.assetsValid b.assetsAfter = false

/-- The command is started and reaped. -/
structure Reaped (invocation : FixtureInvocation) (b : CommandBehaviour) : Prop where
  launched : call.Launched invocation b
  mounted : call.mountError b = none
  spawned : b.spawned = true

/-- The command runs to its expected end and nothing is noticed. -/
structure Uneventful (invocation : FixtureInvocation) (expected : Int) (b : CommandBehaviour) :
    Prop where
  reaped : call.Reaped invocation b
  inTime : b.timedOut = false
  closure : ¬ call.ClosureChangedAfter invocation b
  assets : ¬ call.AssetChangedAfter b
  exitCode : b.exitCode = expected

/-- The program is not there, not trusted, or cannot be started. -/
def Unavailable (invocation : FixtureInvocation) (b : CommandBehaviour) : Prop :=
  ¬ call.ChangedBefore invocation b ∧
    (b.executable = false ∨
      (b.executable = true ∧ invocation.isTool = true ∧ call.trustedPath = true ∧
        b.trusted = false) ∨
      (call.Launched invocation b ∧ call.mountError b = none ∧ b.spawned = false))

end QualificationCall

/-- A run in which nothing has been noticed. -/
structure FixtureRun.Quiet (run : FixtureRun) : Prop where
  timedOut : run.timedOut = false
  programUnavailable : run.programUnavailable = false
  executionClosureChanged : run.executionClosureChanged = false
  restrictedAssetChanged : run.restrictedAssetChanged = false

lemma FixtureRun.Logged.touch {run : FixtureRun} {count : Nat} (h : run.Logged count) :
    run.touch.Logged (count + 1) := by
  simp [FixtureRun.Logged, FixtureRun.touch, h.1, h.2]

namespace QualificationCall

variable {call : QualificationCall} {invocation : FixtureInvocation} {expected : Int}
  {b : CommandBehaviour} {run : FixtureRun}

lemma logged_reap {count : Nat} (call : QualificationCall) (invocation : FixtureInvocation)
    (b : CommandBehaviour) (h : run.Logged count) :
    (call.reap invocation b run).Logged (count + 1) := by
  simp [FixtureRun.Logged, QualificationCall.reap, h.1, h.2]

/-- The ways in which one turn of the loop ends. -/
inductive CommandEnd (call : QualificationCall) (invocation : FixtureInvocation) (expected : Int)
    (b : CommandBehaviour) (run : FixtureRun) : Except String (FixtureRun × Bool) → Prop
  | changedBefore (h : call.ChangedBefore invocation b) :
      CommandEnd call invocation expected b run (.ok ({ run.touch with
        executionClosureChanged := !(b.closureBefore && call.deploymentValid b.deploymentBefore)
        restrictedAssetChanged := !call.assetsValid b.assetsBefore }, false))
  | unavailable (h : call.Unavailable invocation b) :
      CommandEnd call invocation expected b run
        (.ok ({ run.touch with programUnavailable := true }, false))
  | unmounted (h : call.Launched invocation b) {message : String}
      (herror : call.mountError b = some message) :
      CommandEnd call invocation expected b run (.error message)
  | stopped (h : call.Reaped invocation b) (heventful : ¬ call.Uneventful invocation expected b) :
      CommandEnd call invocation expected b run (.ok (call.reap invocation b run, false))
  | continued (h : call.Uneventful invocation expected b) :
      CommandEnd call invocation expected b run (.ok (call.reap invocation b run, true))

/-- The rootless runtime is there when the installation runs through it. -/
def RuntimePresent (call : QualificationCall) : Prop :=
  call.installation.executableInvocationMode = .rootlessImage →
    call.installation.rootlessImageRuntime ≠ none

/-- A reaped command lets the loop go on exactly when it was uneventful. -/
lemma reap_continues_iff (expected : Int) (hquiet : run.Quiet)
    (hreaped : call.Reaped invocation b) :
    (!((call.reap invocation b run).timedOut ||
        (call.reap invocation b run).executionClosureChanged ||
          (call.reap invocation b run).restrictedAssetChanged ||
            decide (b.exitCode ≠ expected))) = true ↔ call.Uneventful invocation expected b := by
  simp only [reap, hquiet.timedOut, hquiet.executionClosureChanged,
    hquiet.restrictedAssetChanged, Bool.false_or, Bool.not_eq_true', Bool.or_eq_false_iff,
    decide_eq_false_iff_not, ne_eq, not_not]
  constructor
  · rintro ⟨⟨⟨htime, hclosure⟩, hassets⟩, hexit⟩
    refine ⟨hreaped, htime, ?_, ?_, hexit⟩
    · rintro ⟨htool, hfalse⟩
      rw [htool, hfalse] at hclosure
      cases hclosure
    · intro hfalse
      rw [AssetChangedAfter] at hfalse
      rw [hfalse] at hassets
      cases hassets
  · rintro ⟨-, htime, hclosure, hassets, hexit⟩
    refine ⟨⟨⟨htime, ?_⟩, ?_⟩, hexit⟩
    · cases htool : invocation.isTool with
      | false => rfl
      | true =>
        have htrue : (b.closureAfter && call.deploymentValid b.deploymentAfter) = true :=
          Bool.not_eq_false _ ▸ fun hfalse => hclosure ⟨htool, hfalse⟩
        rw [htrue]
        rfl
    · rw [AssetChangedAfter, Bool.not_eq_false] at hassets
      rw [hassets]
      rfl

/-- The step lemma: every turn of the loop ends in one of the five ways. -/
theorem runCommand_end (invocation : FixtureInvocation) (expected : Int) (b : CommandBehaviour)
    (hruntime : call.RuntimePresent) (hquiet : run.Quiet) :
    CommandEnd call invocation expected b run (call.runCommand invocation expected b run) := by
  rw [runCommand]
  by_cases hchanged : call.ChangedBefore invocation b
  · have hcond : (invocation.isTool && !(b.closureBefore && call.deploymentValid b.deploymentBefore
        && call.assetsValid b.assetsBefore)) = true := by
      rw [hchanged.1, hchanged.2]
      rfl
    rw [if_pos hcond]
    exact .changedBefore hchanged
  · have hcond : ¬ (invocation.isTool && !(b.closureBefore &&
        call.deploymentValid b.deploymentBefore && call.assetsValid b.assetsBefore)) = true := by
      intro htrue
      rw [Bool.and_eq_true, Bool.not_eq_true'] at htrue
      exact hchanged htrue
    rw [if_neg hcond]
    cases hexecutable : b.executable with
    | false => exact .unavailable ⟨hchanged, Or.inl hexecutable⟩
    | true =>
      have hraise : ¬ (invocation.isTool ∧
          call.installation.executableInvocationMode = .rootlessImage ∧
            call.installation.rootlessImageRuntime = none) :=
        fun h => hruntime h.2.1 h.2.2
      rw [raiseIf, if_neg hraise, ok_bind]
      by_cases htrusted : (invocation.isTool && call.trustedPath && !b.trusted) = true
      · rw [if_pos htrusted]
        simp only [Bool.and_eq_true, Bool.not_eq_true'] at htrusted
        exact .unavailable
          ⟨hchanged, Or.inr (Or.inl ⟨hexecutable, htrusted.1.1, htrusted.1.2, htrusted.2⟩)⟩
      · rw [if_neg htrusted]
        have hlaunched : call.Launched invocation b := by
          refine ⟨hchanged, hexecutable, ?_⟩
          intro htool hpath
          simpa [htool, hpath] using htrusted
        cases hmount : call.mountError b with
        | some message =>
          rw [mountError] at hmount
          rw [hmount]
          exact .unmounted hlaunched hmount
        | none =>
          rw [mountError] at hmount
          rw [hmount]
          cases hspawned : b.spawned with
          | false =>
            exact .unavailable ⟨hchanged, Or.inr (Or.inr ⟨hlaunched, hmount, hspawned⟩)⟩
          | true =>
            have hreaped : call.Reaped invocation b := ⟨hlaunched, hmount, hspawned⟩
            have hiff := reap_continues_iff expected hquiet hreaped
            show CommandEnd call invocation expected b run (.ok (call.reap invocation b run,
              !((call.reap invocation b run).timedOut ||
                (call.reap invocation b run).executionClosureChanged ||
                  (call.reap invocation b run).restrictedAssetChanged ||
                    decide (b.exitCode ≠ expected))))
            cases hflag : !((call.reap invocation b run).timedOut ||
                (call.reap invocation b run).executionClosureChanged ||
                  (call.reap invocation b run).restrictedAssetChanged ||
                    decide (b.exitCode ≠ expected)) with
            | true => exact .continued (hiff.mp hflag)
            | false =>
              refine .stopped hreaped ?_
              intro h
              exact Bool.false_ne_true (hflag.symm.trans (hiff.mpr h))

/-! ### Whole runs -/

lemma Uneventful.quiet_reap (hquiet : run.Quiet) (h : call.Uneventful invocation expected b) :
    (call.reap invocation b run).Quiet := by
  have hflag := (reap_continues_iff expected hquiet h.reaped).mpr h
  simp only [Bool.not_eq_true', Bool.or_eq_false_iff] at hflag
  exact ⟨hflag.1.1.1, hquiet.programUnavailable, hflag.1.1.2, hflag.1.2⟩

/-- The first `count` commands of a list are uneventful. -/
def UneventfulUpTo (call : QualificationCall) (command : Nat → CommandBehaviour) (index : Nat)
    (invocations : List FixtureInvocation) (codes : List Int) (count : Nat) : Prop :=
  ∀ j < count, ∀ invocation code, invocations[j]? = some invocation → codes[j]? = some code →
    call.Uneventful invocation code (command (index + j))

/-- How a run over the whole list ends: at its end, or at a command that ends otherwise. -/
inductive RunEnd (call : QualificationCall) (command : Nat → CommandBehaviour) (index : Nat)
    (invocations : List FixtureInvocation) (codes : List Int) (run : FixtureRun) :
    Except String FixtureRun → Prop
  | completed {run' : FixtureRun} (hquiet : run'.Quiet)
      (hcodes : run'.exitCodes = run.exitCodes ++ codes)
      (hlogs : run'.Logged (index + invocations.length))
      (hstdout : run'.stdoutFiles = run.stdoutFiles ++
        (List.range invocations.length).map fun j => (command (index + j)).stdout)
      (hstderr : run'.stderrFiles = run.stderrFiles ++
        (List.range invocations.length).map fun j => (command (index + j)).stderr)
      (huneventful : call.UneventfulUpTo command index invocations codes invocations.length) :
      RunEnd call command index invocations codes run (.ok run')
  | ended {k : Nat} {run' : FixtureRun} {invocation : FixtureInvocation} {code : Int}
      {result : Except String (FixtureRun × Bool)} (hquiet : run'.Quiet)
      (hcodes : run'.exitCodes = run.exitCodes ++ codes.take k) (hlogs : run'.Logged (index + k))
      (hstdout : run'.stdoutFiles = run.stdoutFiles ++
        (List.range k).map fun j => (command (index + j)).stdout)
      (hstderr : run'.stderrFiles = run.stderrFiles ++
        (List.range k).map fun j => (command (index + j)).stderr)
      (huneventful : call.UneventfulUpTo command index invocations codes k)
      (hinvocation : invocations[k]? = some invocation) (hcode : codes[k]? = some code)
      (hend : CommandEnd call invocation code (command (index + k)) run' result)
      (hstops : ∀ last, result ≠ .ok (last, true)) :
      RunEnd call command index invocations codes run (Prod.fst <$> result)

lemma UneventfulUpTo.cons {command : Nat → CommandBehaviour} {index count : Nat}
    {invocations : List FixtureInvocation} {codes : List Int} {code : Int}
    (h : call.Uneventful invocation code (command index))
    (hrest : call.UneventfulUpTo command (index + 1) invocations codes count) :
    call.UneventfulUpTo command index (invocation :: invocations) (code :: codes) (count + 1) := by
  intro j hj invocation' code' hinvocation hcode
  cases j with
  | zero =>
    cases hinvocation
    cases hcode
    exact h
  | succ j =>
    have := hrest j (by omega) invocation' code' hinvocation hcode
    rwa [show index + 1 + j = index + (j + 1) by omega] at this

/-- The run lemma: by induction on the commands, carrying the quiet run so far. -/
theorem runCommands_end (hruntime : call.RuntimePresent) (command : Nat → CommandBehaviour)
    (invocations : List FixtureInvocation) :
    ∀ (index : Nat) (codes : List Int) (run : FixtureRun), codes.length = invocations.length →
      run.Quiet → run.Logged index →
        RunEnd call command index invocations codes run
          (call.runCommands command index invocations codes run) := by
  induction invocations with
  | nil =>
    intro index codes run hlength hquiet hlogs
    obtain rfl := List.length_eq_zero_iff.mp hlength
    refine .completed hquiet (by rw [List.append_nil]) hlogs (by simp) (by simp) ?_
    intro j hj
    exact absurd hj (Nat.not_lt_zero j)
  | cons invocation invocations ih =>
    intro index codes run hlength hquiet hlogs
    cases codes with
    | nil => cases hlength
    | cons code codes =>
      have hlength' : codes.length = invocations.length := Nat.succ.inj hlength
      have hend := runCommand_end invocation code (command index) hruntime hquiet
      rw [runCommands]
      generalize hresult : call.runCommand invocation code (command index) run = result at hend ⊢
      have hhere : ∀ result, CommandEnd call invocation code (command index) run result →
          (∀ last, result ≠ .ok (last, true)) →
            RunEnd call command index (invocation :: invocations) (code :: codes) run
              (Prod.fst <$> result) := by
        intro result hend hstops
        refine .ended (k := 0) hquiet (by simp) hlogs (by simp) (by simp) ?_ rfl rfl hend hstops
        intro j hj
        exact absurd hj (Nat.not_lt_zero j)
      cases hend with
      | changedBefore h => exact hhere _ (.changedBefore h) (by simp)
      | unavailable h => exact hhere _ (.unavailable h) (by simp)
      | unmounted h herror => exact hhere _ (.unmounted h herror) (by simp)
      | stopped h heventful => exact hhere _ (.stopped h heventful) (by simp)
      | continued h =>
        have hrest := ih (index + 1) codes _ hlength' (h.quiet_reap hquiet)
          (logged_reap call invocation (command index) hlogs)
        have hexit : (call.reap invocation (command index) run).exitCodes =
            run.exitCodes ++ [code] := by
          rw [reap, h.exitCode]
        rw [ok_bind]
        simp only [if_true]
        generalize call.runCommands command (index + 1) invocations codes _ = whole at hrest ⊢
        have hshift : ∀ j, index + 1 + j = index + (j + 1) := fun j => by omega
        cases hrest with
        | completed hquiet' hcodes hlogs' hstdout hstderr huneventful =>
          refine .completed hquiet' ?_ ?_ ?_ ?_ (huneventful.cons h)
          · rw [hcodes, hexit, List.append_assoc, List.singleton_append]
          · rwa [List.length_cons, show index + (invocations.length + 1) =
              index + 1 + invocations.length by omega]
          · rw [hstdout, List.length_cons, List.range_succ_eq_map]
            simp [reap, hshift, Function.comp_def]
          · rw [hstderr, List.length_cons, List.range_succ_eq_map]
            simp [reap, hshift, Function.comp_def]
        | @ended k _ _ _ _ hquiet' hcodes hlogs' hstdout hstderr huneventful hinvocation hcode hend'
            hstops =>
          refine .ended (k := k + 1) hquiet' ?_ ?_ ?_ ?_ (huneventful.cons h) hinvocation hcode ?_
            hstops
          · rw [hcodes, hexit, List.append_assoc, List.singleton_append, List.take_succ_cons]
          · rwa [← hshift]
          · rw [hstdout, List.range_succ_eq_map]
            simp [reap, hshift, Function.comp_def]
          · rw [hstderr, List.range_succ_eq_map]
            simp [reap, hshift, Function.comp_def]
          · rwa [← hshift]

end QualificationCall

end EdaGym
