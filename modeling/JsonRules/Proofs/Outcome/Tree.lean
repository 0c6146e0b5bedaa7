import JsonRules.Outcome.Run
import JsonRules.Proofs.Rule.Tree

namespace JsonRules

namespace Outcome

/-- A property of all outcomes may be shown for a group from what holds of its children. -/
@[elab_as_elim, induction_eliminator]
theorem induction {motive : Outcome → Prop} (check : ∀ c, motive (.check c))
    (group : ∀ connective valid children, (∀ o ∈ children, motive o) →
      motive (.group connective valid children))
    (o : Outcome) : motive o :=
  match o with
  | .check c => check c
  | .group connective valid children =>
    group connective valid children fun o _ => induction check group o

theorem checksOf_eq_flatMap (outcomes : List Outcome) :
    checksOf outcomes = outcomes.flatMap checks := by
  induction outcomes with
  | nil => rfl
  | cons o rest ih => rw [checksOf, ih, List.flatMap_cons]

theorem areComplete_eq_all (outcomes : List Outcome) :
    areComplete outcomes = outcomes.all isComplete := by
  induction outcomes with
  | nil => rfl
  | cons o rest ih => rw [areComplete, ih, List.all_cons]

theorem isComplete_eq_all (o : Outcome) : o.isComplete = o.checks.all (·.evaluated) := by
  induction o with
  | check c => simp [isComplete, checks]
  | group connective valid children ih =>
    rw [isComplete, checks, areComplete_eq_all, checksOf_eq_flatMap, List.all_flatMap,
      Bool.eq_iff_iff, List.all_eq_true, List.all_eq_true]
    exact forall_congr' fun o => imp_congr_right fun ho => by rw [ih o ho]

end Outcome

namespace Rule

theorem evaluateAll_eq_map (document : Json) (explain : Bool) (rules : List Rule) :
    evaluateAll document explain rules = rules.map (evaluate document explain) := by
  induction rules with
  | nil => rfl
  | cons r rest ih => rw [evaluateAll, ih, List.map_cons]

theorem skipAll_eq_map (explain : Bool) (rules : List Rule) :
    skipAll explain rules = rules.map (skip explain) := by
  induction rules with
  | nil => rfl
  | cons r rest ih => rw [skipAll, ih, List.map_cons]

/-- If each rule of a list leads to one outcome for each check, then so does the list. -/
theorem checksOf_map {f : Rule → Outcome} {g : Check → CheckOutcome} {rules : List Rule}
    (h : ∀ r ∈ rules, (f r).checks = r.checks.map g) :
    Outcome.checksOf (rules.map f) = (checksOf rules).map g := by
  rw [Outcome.checksOf_eq_flatMap, checksOf_eq_flatMap, List.flatMap_map, List.map_flatMap,
    List.flatMap_def, List.flatMap_def, List.map_congr_left h]

/-- Every check is evaluated, whatever the verdicts of the others are. -/
theorem checks_evaluate (document : Json) (explain : Bool) (r : Rule) :
    (r.evaluate document explain).checks =
      r.checks.map fun c => c.outcome explain (c.passes document) true := by
  induction r with
  | check c => rfl
  | group connective children ih =>
    rw [evaluate, Outcome.checks, checks, evaluateAll_eq_map, checksOf_map ih]

theorem checks_skip (explain : Bool) (r : Rule) :
    (r.skip explain).checks = r.checks.map fun c => c.outcome explain false false := by
  induction r with
  | check c => rfl
  | group connective children ih =>
    rw [skip, Outcome.checks, checks, skipAll_eq_map, checksOf_map ih]

theorem countP_evaluated_skip (explain : Bool) (r : Rule) :
    (r.skip explain).checks.countP (·.evaluated) = 0 := by
  rw [checks_skip, List.countP_map, List.countP_eq_zero]
  simp [Check.outcome]

end Rule

end JsonRules
