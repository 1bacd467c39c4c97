import EdaGym.Evaluation.Topology

/-!
# The order of the stages

The depth-first check and the traversal decide the same thing about any stages with distinct
identifiers and known dependencies: whether there is a cycle. What the traversal returns is the
least dependency order, and so does not depend on how the stages are declared.
-/

namespace EdaGym

open Relation (TransGen ReflTransGen)
open TaskDocument (KnownStages visit)

/-- Nothing depends on itself, over any number of dependencies. -/
def AcyclicStages (t : TaskDocument) : Prop := ∀ s, ¬ TransGen t.Depends s s

variable {t : TaskDocument}

/-! ### The depth-first check -/

/-- The stages being visited are distinct, known and wait for `s`. -/
structure Path (t : TaskDocument) (visiting : List Identifier) (s : Identifier) : Prop where
  nodup : visiting.Nodup
  known : visiting ⊆ t.stageIds
  waits : ∀ v ∈ visiting, TransGen t.Depends v s

lemma foldSteps_visit {fuel : Nat} {visiting ids : List Identifier}
    (hvisit : ∀ visited, ∀ s ∈ ids, ∃ visited',
      visit t.stageIndex fuel (visiting, visited) s = .ok (visiting, visited'))
    (visited : List Identifier) : ∃ visited',
      foldSteps (visit t.stageIndex fuel) (visiting, visited) ids = .ok (visiting, visited') := by
  induction ids generalizing visited with
  | nil => exact ⟨visited, rfl⟩
  | cons s ids ih =>
    obtain ⟨visited₁, hfirst⟩ := hvisit visited s (by simp)
    obtain ⟨visited', hrest⟩ := ih (fun m s hs => hvisit m s (List.mem_cons_of_mem _ hs)) visited₁
    exact ⟨visited', foldSteps_cons_eq_ok.mpr ⟨_, hfirst, hrest⟩⟩

/-- Without a cycle no stage is met again while it is being visited. -/
lemma exists_visit [KnownStages t] (hacyclic : AcyclicStages t) {fuel : Nat}
    {visiting : List Identifier} {s : Identifier} (hs : s ∈ t.stageIds)
    (hpath : Path t visiting s) (hfuel : t.stageIds.length < fuel + visiting.length)
    (visited : List Identifier) :
    ∃ visited', visit t.stageIndex fuel (visiting, visited) s = .ok (visiting, visited') := by
  induction fuel generalizing visiting s visited with
  | zero =>
    have := (List.subperm_of_subset hpath.nodup hpath.known).length_le
    omega
  | succ fuel ih =>
    have hnew : s ∉ visiting := fun hin => hacyclic s (hpath.waits s hin)
    unfold visit
    rw [if_neg hnew]
    split_ifs
    · exact ⟨visited, rfl⟩
    · obtain ⟨stage, hstage⟩ := Dict.mem_iff.mp (mem_stageIndex.mpr hs)
      have hdeps : ∀ visited, ∀ d ∈ stage.dependsOn, ∃ visited',
          visit t.stageIndex fuel (s :: visiting, visited) d = .ok (s :: visiting, visited') := by
        intro visited d hd
        have hdepends : t.Depends s d := ⟨stage, hstage, hd⟩
        refine ih hdepends.known.2 ⟨List.nodup_cons.mpr ⟨hnew, hpath.nodup⟩, ?_, ?_⟩
          (by rw [List.length_cons]; omega) visited
        · exact List.cons_subset.mpr ⟨hs, hpath.known⟩
        · exact List.forall_mem_cons.mpr ⟨.single hdepends, fun v hv =>
            (hpath.waits v hv).tail hdepends⟩
      obtain ⟨visited', hfold⟩ := foldSteps_visit hdeps visited
      refine ⟨s :: visited', ?_⟩
      rw [hstage, orRaise, ok_bind, hfold, ok_bind]
      simp only [List.erase_cons_head]

/-- What stands in dependency order has no cycle. -/
lemma acyclicStages_of_ordered [KnownStages t] {xs : List Identifier}
    (h : DependencyOrdered t.Depends xs) (hall : ∀ s ∈ t.stageIds, s ∈ xs) : AcyclicStages t := by
  have hxs : ∀ s ∈ xs, ¬ TransGen t.Depends s s := by
    refine h.induction fun s _ hdeps hcycle => ?_
    obtain ⟨d, hd, hback⟩ := TransGen.head'_iff.mp hcycle
    exact hdeps d hd (TransGen.tail' hback hd)
  intro s hcycle
  obtain ⟨d, hd, -⟩ := TransGen.head'_iff.mp hcycle
  exact hxs s (hall s hd.known.1) hcycle

/-! ### The least order -/

/-- A greedy order is below every other one at the first place where they differ. -/
lemma Greedy.le_of_ordered {pre xs ys : List Identifier} (h : Greedy t (pre ++ xs))
    (hlength : xs.length = ys.length) (hnodup : (pre ++ ys).Nodup) (hknown : ys ⊆ t.stageIds)
    (hordered : DependencyOrdered t.Depends (pre ++ ys)) :
    xs = ys ∨ List.Lex (· < ·) xs ys := by
  induction xs generalizing pre ys with
  | nil => exact .inl (List.length_eq_zero_iff.mp hlength.symm).symm
  | cons x xs ih =>
    cases ys with
    | nil => cases hlength
    | cons y ys =>
      have hout : y ∉ pre := fun hin => (List.nodup_append.mp hnodup).2.2 y hin y (by simp) rfl
      rcases (h pre x xs rfl y (hknown (by simp)) hout
        (hordered pre y ys rfl)).eq_or_lt with rfl | hlt
      · have hcons : ∀ zs, pre ++ x :: zs = (pre ++ [x]) ++ zs := by simp
        rw [hcons] at h hnodup hordered
        rcases ih h (Nat.succ.inj hlength) hnodup (List.cons_subset.mp hknown).2 hordered with
          rfl | hlex
        · exact .inl rfl
        · exact .inr (.cons hlex)
      · exact .inr (.rel hlt)

/-- In a dependency order an element stands after all that it depends on in any number of steps. -/
lemma DependencyOrdered.transGen {κ : Type*} {dep : κ → κ → Prop} {pre post : List κ} {x d : κ}
    (h : DependencyOrdered dep (pre ++ x :: post)) (hd : TransGen dep x d) : d ∈ pre := by
  have hpre : DependencyOrdered dep pre := h.of_append
  induction hd with
  | single hd => exact h pre x post rfl _ hd
  | tail _ hd ih => exact hpre.closed ih hd

/-- What the depth-first check and the traversal make of stages with distinct identifiers and known
dependencies. -/
theorem topologicalOrder_laws (t : TaskDocument) (hnodup : t.stageIds.Nodup)
    (hknown : ∀ stage ∈ t.evaluation.stages, ∀ d ∈ stage.dependsOn, d ∈ t.stageIds) :
    ((∃ marks, foldSteps (visit t.stageIndex (t.evaluation.stages.length + 1)) ([], [])
        t.stageIds = .ok marks) ↔ AcyclicStages t) ∧
    ((∃ ordered, topologicalOrder t.evaluation.stages = .ok ordered) ↔ AcyclicStages t) ∧
    ∀ ordered, topologicalOrder t.evaluation.stages = .ok ordered →
      ordered.Perm t.stageIds ∧
      (∀ pre x post, ordered = pre ++ x :: post → ∀ d, TransGen t.Depends x d → d ∈ pre) ∧
      (∀ other, other.Perm t.stageIds → DependencyOrdered t.Depends other →
        ordered = other ∨ List.Lex (· < ·) ordered other) ∧
      ∀ t' : TaskDocument, t'.stageIds.Perm t.stageIds →
        (∀ s d, t'.Depends s d ↔ t.Depends s d) →
        (∀ stage ∈ t'.evaluation.stages, ∀ d ∈ stage.dependsOn, d ∈ t'.stageIds) →
        topologicalOrder t'.evaluation.stages = .ok ordered := by
  have _ : KnownStages t := ⟨hnodup, hknown⟩
  have hdfs : AcyclicStages t → ∃ marks, foldSteps
      (visit t.stageIndex (t.evaluation.stages.length + 1)) ([], []) t.stageIds = .ok marks := by
    intro hacyclic
    obtain ⟨visited, hvisits⟩ := @foldSteps_visit t (t.evaluation.stages.length + 1) [] t.stageIds
      (fun visited s hs => exists_visit hacyclic hs ⟨.nil, by simp, by simp⟩
        (by simp [TaskDocument.stageIds]) visited) []
    exact ⟨_, hvisits⟩
  have hsound : (∃ marks, foldSteps (visit t.stageIndex (t.evaluation.stages.length + 1)) ([], [])
      t.stageIds = .ok marks) → AcyclicStages t := by
    rintro ⟨marks, hvisits⟩
    obtain ⟨xs, hxs, hall⟩ := TaskDocument.exists_dependencyOrdered hvisits
    exact acyclicStages_of_ordered hxs hall
  obtain ⟨degrees, taken, h, hok⟩ := topologicalOrder_spec t
  refine ⟨⟨hsound, hdfs⟩, ⟨?_, ?_⟩, ?_⟩
  · rintro ⟨ordered, hordered⟩
    have hperm := ((hok ordered).mp hordered).2
    exact acyclicStages_of_ordered h.inOrder fun s hs => hperm.mem_iff.mpr hs
  · intro hacyclic
    obtain ⟨marks, hvisits⟩ := hdfs hacyclic
    obtain ⟨xs, hxs, hall⟩ := TaskDocument.exists_dependencyOrdered hvisits
    exact ⟨taken, (hok taken).mpr ⟨rfl, h.complete hxs hall⟩⟩
  · intro ordered hordered
    obtain ⟨rfl, hperm⟩ := (hok ordered).mp hordered
    have hleast : ∀ {u : TaskDocument} {xs ys : List Identifier}, Greedy u xs →
        xs.Perm u.stageIds → u.stageIds.Nodup → ys.Perm u.stageIds →
        DependencyOrdered u.Depends ys → xs = ys ∨ List.Lex (· < ·) xs ys := by
      intro u xs ys hgreedy hxs hids hys hdep
      have hgreedy' : Greedy u ([] ++ xs) := hgreedy
      exact hgreedy'.le_of_ordered (hxs.trans hys.symm).length_eq (hys.nodup_iff.mpr hids)
        hys.subset hdep
    refine ⟨hperm, fun pre x post heq d hd => (heq ▸ h.inOrder).transGen hd,
      fun other hother hdep => hleast h.greedy hperm hnodup hother hdep, ?_⟩
    intro t' hids hsame hknown'
    have _ : KnownStages t' := ⟨hids.nodup_iff.mpr hnodup, hknown'⟩
    have hdepends : t'.Depends = t.Depends := by
      ext s d
      exact hsame s d
    obtain ⟨degrees', taken', h', hok'⟩ := topologicalOrder_spec t'
    have hperm' := h'.complete (hdepends ▸ h.inOrder) fun s hs =>
      hperm.mem_iff.mpr (hids.mem_iff.mp hs)
    rw [hok']
    refine ⟨?_, hperm'⟩
    have hle := hleast h.greedy hperm hnodup (hperm'.trans hids) (hdepends ▸ h'.inOrder)
    have hge := hleast h'.greedy hperm' (hids.nodup_iff.mpr hnodup) (hperm.trans hids.symm)
      (hdepends.symm ▸ h.inOrder)
    rcases hle with heq | hlt
    · exact heq
    · rcases hge with heq | hgt
      · exact heq.symm
      · exact absurd hlt (asymm hgt)

/-- A proof that waits for the compilation. -/
def twoStages : TaskDocument where
  identity := { family := "adder", authoringRevision := 1 }
  resources := []
  requirements := []
  evaluation := {
    evaluators := []
    stages := [
      { stageId := "compile", evaluatorId := "lint", purpose := .hardGate },
      { stageId := "prove", evaluatorId := "lint", dependsOn := ["compile"],
        purpose := .hardGate }] }
  digest := "d-task"

theorem topologicalOrder_twoStages : AcyclicStages twoStages :=
  (topologicalOrder_laws twoStages (by decide) (by decide)).2.1.mp
    ⟨["compile", "prove"], by decide +kernel⟩

end EdaGym
