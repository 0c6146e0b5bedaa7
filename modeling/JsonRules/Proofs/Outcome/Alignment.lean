import JsonRules.Proofs.Outcome.Schedule
import JsonRules.Proofs.Rule.Reading

namespace JsonRules

/-- What an outcome has from its check. No check is valid without being evaluated. -/
structure CheckOutcome.IsOf (explain : Bool) (c : Check) (o : CheckOutcome) : Prop where
  description : o.description = c.description
  comment : o.comment = c.comment
  command : o.command = c.command
  selector : o.selector = c.selector.text
  rule : o.rule = if explain then some c.document else none
  invalid_of_not_evaluated : o.evaluated = false → o.valid = false

theorem Check.isOf_outcome {explain valid evaluated : Bool} (c : Check)
    (h : evaluated = false → valid = false) :
    (c.outcome explain valid evaluated).IsOf explain c :=
  ⟨rfl, rfl, rfl, rfl, rfl, h⟩

namespace Outcome

/-- The outcome has a node for each node of the rule, in the same place. -/
inductive Mirrors (explain : Bool) : Rule → Outcome → Prop
  | check {c : Check} {o : CheckOutcome} : o.IsOf explain c → Mirrors explain (.check c) (.check o)
  | group {connective : Connective} {valid : Bool} {children : List Rule}
      {outcomes : List Outcome} :
      List.Forall₂ (Mirrors explain) children outcomes →
        Mirrors explain (.group connective children) (.group connective valid outcomes)

section Lists

theorem checksOfOnto_eq_append {outcomes : List Outcome}
    (h : ∀ o ∈ outcomes, ∀ after, o.checksOnto after = o.checks ++ after)
    (after : List CheckOutcome) :
    checksOfOnto outcomes after = checksOf outcomes ++ after := by
  induction outcomes with
  | nil => rfl
  | cons o rest ih =>
    rw [List.forall_mem_cons] at h
    rw [checksOfOnto, checksOf, ih h.2, h.1, List.append_assoc]

/-- Both ways of listing the checks visit them in the same order. -/
theorem checksOnto_eq_append (o : Outcome) (after : List CheckOutcome) :
    o.checksOnto after = o.checks ++ after := by
  induction o generalizing after with
  | check c => rfl
  | group connective valid children ih => exact checksOfOnto_eq_append ih after

theorem length_checksOf {outcomes : List Outcome}
    (h : ∀ o ∈ outcomes, o.checks.length = o.checkCount) :
    (checksOf outcomes).length = checkCountOf outcomes := by
  induction outcomes with
  | nil => rfl
  | cons o rest ih =>
    rw [List.forall_mem_cons] at h
    rw [checksOf, checkCountOf, List.length_append, h.1, ih h.2]

theorem length_checks (o : Outcome) : o.checks.length = o.checkCount := by
  induction o with
  | check c => rfl
  | group connective valid children ih => exact length_checksOf ih

end Lists

section Mirrors

variable {explain : Bool} {r : Rule} {o : Outcome}

/-- What mirrors a rule node for node lists the outcomes of its checks in step. -/
theorem Mirrors.forall₂_checks (h : Mirrors explain r o) :
    List.Forall₂ (CheckOutcome.IsOf explain) r.checks o.checks := by
  induction r generalizing o with
  | check c =>
    cases h with
    | check hcheck => exact .cons hcheck .nil
  | group connective children ih =>
    cases h with
    | group hchildren =>
      rw [Rule.checks, Outcome.checks, Rule.checksOf_eq_flatMap, checksOf_eq_flatMap]
      -- the induction is on the rule alone, so the children are first put in step
      have hpairs := (List.forall₂_and_left _ _).2 ⟨ih, hchildren⟩
      refine List.rel_flatMap hpairs fun r o hpair => ?_
      obtain ⟨hr, hmirrors⟩ := hpair
      exact hr hmirrors

theorem mirrors_skip (explain : Bool) (r : Rule) : Mirrors explain r (r.skip explain) := by
  induction r with
  | check c => exact .check (c.isOf_outcome fun _ => rfl)
  | group connective children ih =>
    rw [Rule.skip, Rule.skipAll_eq_map]
    exact .group (List.forall₂_map_right_iff.2 (List.forall₂_same.2 ih))

theorem mirrors_of_yields {document : Json} (h : r.Yields document explain o) :
    Mirrors explain r o := by
  induction h using Rule.Yields.induction with
  | check c => exact .check (c.isOf_outcome nofun)
  | skipped connective children => exact mirrors_skip explain _
  | entered connective _ ih =>
    refine .group (ih.imp fun r o hchild => ?_)
    obtain ⟨-, hmirrors⟩ := hchild
    exact hmirrors

end Mirrors

structure Aligned (explain : Bool) (r : Rule) (o : Outcome) : Prop where
  mirrors : Mirrors explain r o
  checkCount : o.checkCount = r.checkCount
  length_checks : o.checks.length = r.checkCount
  length_checksOnto : (o.checksOnto []).length = r.checkCount
  checksOnto : o.checksOnto [] = o.checks
  checks : List.Forall₂ (CheckOutcome.IsOf explain) r.checks o.checks
  isComplete : o.isComplete = true ↔ ∀ c ∈ o.checks, c.evaluated = true
  invalid : ∀ c ∈ o.checks, c.evaluated = false → c.valid = false

theorem Mirrors.aligned {explain : Bool} {r : Rule} {o : Outcome} (h : Mirrors explain r o) :
    Aligned explain r o := by
  have hchecks := h.forall₂_checks
  have hlength : o.checks.length = r.checkCount := by
    rw [← hchecks.length_eq, Rule.length_checks]
  have honto : o.checksOnto [] = o.checks := by rw [checksOnto_eq_append, List.append_nil]
  refine ⟨h, ?_, hlength, ?_, honto, hchecks, ?_, ?_⟩
  · rw [← o.length_checks, hlength]
  · rw [honto, hlength]
  · rw [isComplete_eq_all, List.all_eq_true]
  · intro c hc
    obtain ⟨i, hi, rfl⟩ := List.getElem_of_mem hc
    have hi' : i < r.checks.length := by rwa [hchecks.length_eq]
    exact (hchecks.get hi' hi).invalid_of_not_evaluated

/-- However a watch answers, the outcome of a run stays in step with the rule; so does the outcome
of an evaluation that takes the children of groups in another order or in parallel. -/
theorem run_stays_in_step {σ : Type} (watch : Watch σ) (r : Rule) (target : Json) (explain : Bool)
    (s : σ) :
    Aligned explain r (r.run watch target explain s).1 ∧
      ∀ n outcome, Task.Steps true target explain (.waiting r) n (.ended outcome) →
        Aligned explain r outcome := by
  constructor
  · exact (mirrors_of_yields (Rule.yields_run target explain watch r s)).aligned
  · intro n outcome hsteps
    exact (mirrors_of_yields hsteps.yields).aligned

section Interruption

def halt : Predicate := fun _ _ => ⟨false, ["t"]⟩

/-- A check that cancels the token of its own evaluation, and a negation after it. -/
def haltedRule : Rule :=
  .group .all [.check (RuleHead.plainCheck "halt" "$" [] (.custom halt .null)),
    .group .not [.check (RuleHead.plainCheck "absent" "$" [] .absent)]]

/-- The negation is left out and not valid, and its check is still in its place. -/
theorem run_haltedRule :
    ∃ first second,
      (haltedRule.run (Tokens.watch (some ⟨0, false⟩)) .null true
        (Tokens.empty.create "t" false)).1 =
        .group .all false [.check first, .group .not false [.check second]] ∧
      first.evaluated = true ∧ second.evaluated = false ∧ second.valid = false ∧
      second.command = "absent" ∧ second.rule = some (RuleHead.checkDocument "absent" "$") ∧
      ∃ n outcome, Task.Steps true .null true (.waiting haltedRule) n (.ended outcome) ∧
        Aligned true haltedRule outcome := by
  obtain ⟨haligned, hparallel⟩ := run_stays_in_step (Tokens.watch (some ⟨0, false⟩)) haltedRule
    .null true (Tokens.empty.create "t" false)
  obtain ⟨n, hsteps⟩ := Task.exists_steps_run (Tokens.watch (some ⟨0, false⟩)) haltedRule
    (Tokens.empty.create "t" false)
  refine ⟨_, _, rfl, rfl, rfl, ?_⟩
  cases haligned.checks with
  | cons _ hrest =>
    cases hrest with
    | cons hsecond _ =>
      refine ⟨hsecond.invalid_of_not_evaluated rfl, hsecond.command, hsecond.rule, ?_⟩
      exact ⟨n, _, hsteps, hparallel n _ hsteps⟩

end Interruption

end Outcome

end JsonRules
