import JsonRules.Engine
import JsonRules.Proofs.Report.Checks
import JsonRules.Proofs.Rule.Reading

namespace JsonRules.Engine

variable {e : Engine} {document : Json} {rule : Rule}

/-- A document that says nothing is no rule. -/
theorem isEmptyDocument_of_readRule (h : e.readRule document = .ok rule) :
    isEmptyDocument document = false := by
  obtain ⟨head, hhead⟩ := (Rule.reads_of_ofJson h).exists_head
  unfold isEmptyDocument
  split
  · cases hhead
  · cases hhead
  · rfl

theorem filter_isEmptyDocument (h : e.readRule document = .ok rule) :
    (some document).filter (!isEmptyDocument ·) = some document := by
  rw [Option.filter_some, isEmptyDocument_of_readRule h]
  rfl

theorem validate_of_readRule (h : e.readRule document = .ok rule) (target : Json)
    (explain : Bool) :
    e.validate (some document) target explain = .ok (e.validateRule rule target explain) := by
  rw [validate, filter_isEmptyDocument h]
  simp only [h, Except.map]

theorem validate_eq_ofChecks (h : e.readRule document = .ok rule) (target : Json)
    (explain : Bool) :
    e.validate (some document) target explain =
      .ok (.ofChecks e.policy rule.checks target explain (rule.evaluate target explain).valid) := by
  rw [validate_of_readRule h, validateRule, report, Report.ofOutcome_evaluate_eq_ofChecks]

end JsonRules.Engine
