import JsonRules.Proofs.Engine.PresencePolicy
import JsonRules.Proofs.Outcome.Monotone

namespace JsonRules

namespace Report

theorem countP_tested_eq_zero_iff (rule : Rule) (target : Json) (explain : Bool) :
    (rule.tested target explain).countP (!·.2.valid) = 0 ↔
      ∀ c ∈ rule.checks, c.passes target = true := by
  rw [Rule.tested, List.countP_map, List.countP_eq_zero]
  simp [Check.outcome]

/-- Under each policy there are no errors exactly if all checks pass. -/
theorem errors_ofOutcome_eq_zero_iff (policy : PresencePolicy) (rule : Rule) (target : Json)
    (explain : Bool) :
    (ofOutcome policy rule (rule.evaluate target explain) explain).errors = 0 ↔
      ∀ c ∈ rule.checks, c.passes target = true := by
  rw [← countP_tested_eq_zero_iff rule target explain]
  cases policy with
  | reportAll => rw [ofOutcome_reportAll_evaluate]
  | failFast =>
    rw [ofOutcome_failFast_evaluate]
    exact countP_not_marked_eq_zero_iff (rule.tested target explain)

end Report

namespace Engine

variable {e : Engine} {document : Json} {rule : Rule}

theorem errors_validateRule_eq_zero_iff (e : Engine) (rule : Rule) (target : Json)
    (explain : Bool) :
    (e.validateRule rule target explain).errors = 0 ↔
      ∀ c ∈ rule.checks, c.passes target = true :=
  Report.errors_ofOutcome_eq_zero_iff e.policy rule target explain

/-- The verdict of a report is the truth of the formula that the document writes. -/
theorem verdict_validateRule_iff_holds (h : e.readRule document = .ok rule) (target : Json)
    (explain : Bool) :
    (e.validateRule rule target explain).verdict = true ↔
      rule.Holds fun c => c.passes target = true :=
  (Rule.tells_evaluate target explain (Rule.proper_of_ofDocument h)).valid_iff_holds

/-- A document without negations has a good verdict if there are no errors, and it keeps a good one
when more checks pass. If all its groups are conjunctions, a good verdict takes that there are no
errors. -/
theorem errors_against_verdict (h : e.readRule document = .ok rule)
    (hnot : ¬ document.Writes .not) (target : Json) (explain : Bool) :
    ∃ report, e.validate (some document) target explain = .ok report ∧
      (report.errors = 0 → report.verdict = true) ∧
      ((∀ connective, document.Writes connective → connective = .all) →
        (report.verdict = true ↔ report.errors = 0)) ∧
      ∀ other, (∀ c ∈ rule.checks, c.passes target = true → c.passes other = true) →
        ∃ twin, e.validate (some document) other explain = .ok twin ∧
          (report.verdict = true → twin.verdict = true) := by
  have hnests := Rule.nests_of_reads (Rule.reads_of_ofJson h)
  have huses : ¬ rule.Uses .not := fun hrule => hnot (Rule.writes_of_uses hnests hrule)
  refine ⟨_, validate_of_readRule h target explain, ?_, ?_, ?_⟩
  · rw [errors_validateRule_eq_zero_iff, verdict_validateRule_iff_holds h]
    exact Rule.holds_of_forall (Rule.proper_of_ofDocument h) huses
  · intro hall
    rw [errors_validateRule_eq_zero_iff, verdict_validateRule_iff_holds h]
    apply Rule.holds_iff_forall
    exact fun connective hrule => hall connective (Rule.writes_of_uses hnests hrule)
  · intro other hpasses
    refine ⟨_, validate_of_readRule h other explain, ?_⟩
    rw [verdict_validateRule_iff_holds h, verdict_validateRule_iff_holds h]
    exact fun hholds => hholds.mono huses hpasses

section Aged

def agedTarget : Json := .object [("age", .ofInt 18)]

def namedTarget : Json := .object [("age", .ofInt 18), ("name", .string "Ann")]

theorem not_writes_ageDocument : ¬ ageDocument.Writes .not := by
  have hreads : Rule.Reads .builtins ageDocument ageRule :=
    Rule.reads_of_ofJson readRule_ageDocument
  rw [Rule.writes_iff_uses (Rule.nests_of_reads hreads)]
  intro h
  cases h with
  | child hr hchild =>
    rw [List.mem_cons, List.mem_singleton] at hr
    obtain rfl | rfl := hr
    · cases hchild
    · cases hchild

/-- Both checks pass on a document with an age, so it is valid, and so is one with a name too. -/
theorem errors_against_verdict_ageDocument :
    Engine.default.readRule ageDocument = .ok ageRule ∧ ¬ ageDocument.Writes .not ∧
      (∀ c ∈ ageRule.checks, c.passes agedTarget = true → c.passes namedTarget = true) ∧
      ∃ report twin, Engine.default.validate (some ageDocument) agedTarget true = .ok report ∧
        Engine.default.validate (some ageDocument) namedTarget true = .ok twin ∧
        report.errors = 0 ∧ report.verdict = true ∧ twin.verdict = true := by
  have haged : ∀ c ∈ ageRule.checks, c.passes agedTarget = true := by decide
  have hnamed : ∀ c ∈ ageRule.checks, c.passes agedTarget = true → c.passes namedTarget = true := by
    decide
  obtain ⟨report, hreport, hverdict, -, hmore⟩ :=
    errors_against_verdict readRule_ageDocument not_writes_ageDocument agedTarget true
  obtain ⟨twin, htwin, hkept⟩ := hmore namedTarget hnamed
  refine ⟨readRule_ageDocument, not_writes_ageDocument, hnamed, report, twin, hreport, htwin, ?_⟩
  have herrors : report.errors = 0 := by
    cases (validate_of_readRule readRule_ageDocument agedTarget true).symm.trans hreport
    exact (errors_validateRule_eq_zero_iff _ _ _ _).2 haged
  exact ⟨herrors, hverdict herrors, hkept (hverdict herrors)⟩

end Aged

end Engine

end JsonRules
