import JsonRules.Proofs.Engine.Cancellation
import JsonRules.Proofs.Engine.PresencePolicy

namespace JsonRules

namespace Report

/-- A report with entries and one without them that say the same. The errors are the entries that
failed and are not marked. -/
structure Explains (full plain : Report) : Prop where
  valid : full.valid = plain.valid
  errors : full.errors = plain.errors
  verdict : full.verdict = plain.verdict
  absent : plain.details = none
  present : ∃ details, full.details = some details ∧
    full.errors = details.countP fun d => !d.passed && !d.suppressed

theorem explains_ofOutcome (policy : PresencePolicy) (rule : Rule) (outcome : Outcome) :
    (ofOutcome policy rule outcome true).Explains
      (ofOutcome policy rule outcome.ruleless false) := by
  rw [ofOutcome_ruleless]
  refine ⟨rfl, rfl, rfl, rfl, _, rfl, ?_⟩
  rw [List.countP_map]
  rfl

theorem explains_trivial : (trivial true).Explains (trivial false) :=
  ⟨rfl, rfl, rfl, rfl, [], rfl, rfl⟩

end Report

namespace Engine

variable (e : Engine)

theorem agree_settle (rule : Rule) (outcome : Outcome) :
    (e.settle rule outcome true).Agree Report.Explains (e.settle rule outcome.ruleless false) := by
  rw [settle, settle, outcome.isComplete_ruleless]
  split
  · exact .ok (Report.explains_ofOutcome e.policy rule outcome)
  · rw [outcome.countP_evaluated_ruleless, outcome.checks_ruleless, List.length_map]
    exact .error _

theorem explains_validateRule (rule : Rule) (target : Json) :
    (e.validateRule rule target true).Explains (e.validateRule rule target false) := by
  rw [validateRule, validateRule, ← rule.ruleless_evaluate target true]
  exact Report.explains_ofOutcome e.policy rule _

theorem agree_validate (rules : Option Json) (target : Json) :
    (e.validate rules target true).Agree Report.Explains (e.validate rules target false) := by
  rw [validate, validate]
  split
  · exact .ok Report.explains_trivial
  · next document _ =>
    cases e.readRule document with
    | error error => exact .error error
    | ok rule => exact .ok (e.explains_validateRule rule target)

theorem agree_validateUntil {σ : Type} (watch : Watch σ) (rules : Option Json) (target : Json)
    (s : σ) :
    (e.validateUntil watch rules target true s).1.Agree Report.Explains
        (e.validateUntil watch rules target false s).1 ∧
      (e.validateUntil watch rules target true s).2 =
        (e.validateUntil watch rules target false s).2 := by
  obtain ⟨document, rule, rfl, hread⟩ | hunasked := e.validateUntil_cases watch rules s
  · rw [validateUntil_eq_settle hread, validateUntil_eq_settle hread,
      rule.run_false_eq target true watch s]
    exact ⟨e.agree_settle rule _, rfl⟩
  · rw [hunasked, hunasked]
    exact ⟨(e.agree_validate rules target).mapError ValidationError.rule, rfl⟩

/-- To ask for an explanation changes nothing but that there is one: neither the answer to a
validation nor, under a watch, what the watch sees. The outcomes of a rule are the same but for the
objects of the rule document, and so are those that a parallel evaluation may end in. -/
theorem explanation_only_observes {σ : Type} (watch : Watch σ) (rules : Option Json)
    (target : Json) (s : σ) :
    (e.validate rules target true).Agree Report.Explains (e.validate rules target false) ∧
      (e.validateUntil watch rules target true s).1.Agree Report.Explains
        (e.validateUntil watch rules target false s).1 ∧
      (e.validateUntil watch rules target true s).2 =
        (e.validateUntil watch rules target false s).2 ∧
      ∀ rule : Rule,
        (rule.evaluate target true).ruleless = rule.evaluate target false ∧
        (rule.run watch target true s).1.ruleless = (rule.run watch target false s).1 ∧
        ∀ stoppable n outcome,
          (Task.Steps stoppable target false (.waiting rule) n (.ended outcome) ↔
            ∃ full, Task.Steps stoppable target true (.waiting rule) n (.ended full) ∧
              full.ruleless = outcome ∧
              (e.settle rule full true).Agree Report.Explains (e.settle rule outcome false)) := by
  obtain ⟨huntil, hworld⟩ := e.agree_validateUntil watch rules target s
  refine ⟨e.agree_validate rules target, huntil, hworld, fun rule => ⟨?_, ?_, ?_⟩⟩
  · exact rule.ruleless_evaluate target true
  · rw [rule.run_false_eq target true watch s]
  · intro stoppable n outcome
    rw [Task.steps_false_iff true]
    constructor
    · rintro ⟨full, hsteps, rfl⟩
      exact ⟨full, hsteps, rfl, e.agree_settle rule full⟩
    · rintro ⟨full, hsteps, heq, -⟩
      exact ⟨full, hsteps, heq⟩

end Engine

end JsonRules
