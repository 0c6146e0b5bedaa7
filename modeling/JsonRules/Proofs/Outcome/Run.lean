import JsonRules.Proofs.Outcome.Tree
import Mathlib.Data.List.Forall2

namespace JsonRules.Rule

/-- The outcomes that a rule may have if each group is told to stop or to go on, in whatever way. -/
inductive Yields (document : Json) (explain : Bool) : Rule → Outcome → Prop
  | check (c : Check) :
      Yields document explain (.check c) (.check (c.outcome explain (c.passes document) true))
  | skipped (connective : Connective) (children : List Rule) :
      Yields document explain (.group connective children)
        (skip explain (.group connective children))
  | entered {connective : Connective} {children : List Rule} {outcomes : List Outcome} :
      List.Forall₂ (Yields document explain) children outcomes →
        Yields document explain (.group connective children)
          (.group connective (connective.combine (outcomes.map Outcome.valid)) outcomes)

variable {document : Json} {explain : Bool}

/-- Induction over the way an outcome came about, with the children of a group in step. -/
@[elab_as_elim]
theorem Yields.induction {motive : ∀ r o, Yields document explain r o → Prop}
    (check : ∀ c, motive _ _ (.check c))
    (skipped : ∀ connective children, motive _ _ (.skipped connective children))
    (entered : ∀ connective {children outcomes}
      (h : List.Forall₂ (Yields document explain) children outcomes),
      List.Forall₂ (fun r o => ∃ h, motive r o h) children outcomes →
        motive (.group connective children) _ (.entered h))
    {r : Rule} {o : Outcome} (h : Yields document explain r o) : motive r o h := by
  induction r generalizing o with
  | check c =>
    cases h with
    | check => exact check c
  | group connective children ih =>
    cases h with
    | skipped => exact skipped connective children
    | entered houtcomes =>
      -- the recursion is on the rule alone, so it says nothing yet of pairs in step
      have hmotive : ∀ r ∈ children, ∀ o (h : Yields document explain r o), motive r o h :=
        fun r hr o => ih r hr
      refine entered connective houtcomes ?_
      exact ((List.forall₂_and_left _ _).2 ⟨hmotive, houtcomes⟩).imp fun r o h => ⟨h.2, h.1 o h.2⟩

/-- Each check has one outcome in its place: that of the check, or that of a check left out. -/
theorem Yields.checks {r : Rule} {o : Outcome} (h : Yields document explain r o) :
    List.Forall₂ (fun c o => o = c.outcome explain (c.passes document) true ∨
      o = c.outcome explain false false) r.checks o.checks := by
  induction h using Yields.induction with
  | check c => exact .cons (.inl rfl) .nil
  | skipped connective children =>
    rw [checks_skip, List.forall₂_map_right_iff]
    exact List.forall₂_same.2 fun c _ => .inr rfl
  | entered connective _ ih =>
    rw [Rule.checks, Outcome.checks, checksOf_eq_flatMap, Outcome.checksOf_eq_flatMap]
    refine List.rel_flatMap ih fun r o hchild => ?_
    obtain ⟨-, hchecks⟩ := hchild
    exact hchecks

theorem Yields.length_checks {r : Rule} {o : Outcome} (h : Yields document explain r o) :
    o.checks.length = r.checkCount := by
  rw [← h.checks.length_eq, Rule.length_checks]

/-- An outcome leaves no gap exactly if all checks were evaluated. -/
theorem Yields.isComplete_iff {r : Rule} {o : Outcome} (h : Yields document explain r o) :
    o.isComplete = true ↔ o.checks.countP (·.evaluated) = r.checkCount := by
  rw [← h.length_checks, List.countP_eq_length, Outcome.isComplete_eq_all, List.all_eq_true]

theorem Yields.countP_evaluated_le {r : Rule} {o : Outcome} (h : Yields document explain r o) :
    o.checks.countP (·.evaluated) ≤ r.checkCount := by
  rw [← h.length_checks]
  exact List.countP_le_length

/-- A rule that was skipped has a check that was not evaluated, as no group is empty. -/
theorem not_isComplete_skip {r : Rule} (h : r.Proper) : (skip explain r).isComplete = false := by
  obtain ⟨c, hc⟩ := h.exists_check
  rw [Outcome.isComplete_eq_all, checks_skip, List.all_map, List.all_eq_false]
  exact ⟨c, hc, by simp [Check.outcome]⟩

/-- An outcome without gaps is the outcome of an evaluation that nothing stopped. -/
theorem Yields.eq_evaluate {r : Rule} {o : Outcome} (h : Yields document explain r o)
    (hproper : r.Proper) (hcomplete : o.isComplete = true) : o = r.evaluate document explain := by
  induction h using Yields.induction with
  | check c => rfl
  | skipped connective children =>
    rw [not_isComplete_skip hproper] at hcomplete
    cases hcomplete
  | @entered connective children outcomes _ ih =>
    -- a gap of a child would be a gap of the group
    have heq : children.map (evaluate document explain) = outcomes := by
      rw [Outcome.isComplete, Outcome.areComplete_eq_all, List.all_eq_true] at hcomplete
      rw [← List.forall₂_eq_eq_eq, List.forall₂_map_left_iff]
      rw [List.forall₂_iff_zip] at ih ⊢
      refine ⟨ih.1, fun {r o} hmem => ?_⟩
      obtain ⟨hr, ho⟩ := List.of_mem_zip hmem
      obtain ⟨_, heval⟩ := ih.2 hmem
      exact (heval (hproper.of_mem hr) (hcomplete o ho)).symm
    rw [evaluate, evaluateAll_eq_map, heq]

section Runs

variable {σ : Type} {watch : Watch σ} {s t : σ} {connective : Connective} {children : List Rule}

theorem run_stopped (h : watch.stops s = (true, t)) :
    run watch document explain (.group connective children) s =
      (skip explain (.group connective children), t) := by
  rw [run, h]

theorem run_entered (h : watch.stops s = (false, t)) :
    run watch document explain (.group connective children) s =
      (.group connective
          (connective.combine ((runAll watch document explain children t).1.map Outcome.valid))
          (runAll watch document explain children t).1,
        (runAll watch document explain children t).2) := by
  rw [run, h]

variable (watch document explain)

mutual

/-- Whatever a watch answers, a run ends in an outcome that the rule may have. -/
theorem yields_run (r : Rule) (s : σ) :
    Yields document explain r (run watch document explain r s).1 := by
  cases r with
  | check c => exact .check c
  | group connective children =>
    rcases hstops : watch.stops s with ⟨_ | _, t⟩
    · rw [run_entered hstops]
      exact .entered (yields_runAll children t)
    · rw [run_stopped hstops]
      exact .skipped connective children

theorem yields_runAll (rules : List Rule) (s : σ) :
    List.Forall₂ (Yields document explain) rules (runAll watch document explain rules s).1 := by
  cases rules with
  | nil => exact .nil
  | cons r rest =>
    rw [runAll]
    exact .cons (yields_run r s) (yields_runAll rest _)

end

variable {watch}

mutual

/-- A watch that never stops anything makes no difference. -/
theorem run_eq_evaluate (hgo : ∀ s, (watch.stops s).1 = false) (r : Rule) (s : σ) :
    (run watch document explain r s).1 = r.evaluate document explain := by
  cases r with
  | check c => rfl
  | group connective children =>
    have hstops : watch.stops s = (false, (watch.stops s).2) := by rw [← hgo s]
    rw [run_entered hstops, evaluate, runAll_eq_evaluateAll hgo children]

theorem runAll_eq_evaluateAll (hgo : ∀ s, (watch.stops s).1 = false) (rules : List Rule) (s : σ) :
    (runAll watch document explain rules s).1 = evaluateAll document explain rules := by
  cases rules with
  | nil => rfl
  | cons r rest =>
    simp only [runAll, evaluateAll, run_eq_evaluate hgo r s]
    rw [runAll_eq_evaluateAll hgo rest]

end

end Runs

end JsonRules.Rule
