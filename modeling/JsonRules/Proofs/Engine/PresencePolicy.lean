import JsonRules.Proofs.Engine.Validation
import JsonRules.Proofs.Outcome.Explanation
import JsonRules.Proofs.Report.Checks

namespace JsonRules

namespace Rule

/-- The checks of a rule, each with its outcome when nothing stops the evaluation. -/
def tested (rule : Rule) (target : Json) (explain : Bool) : List (Check × CheckOutcome) :=
  rule.checks.map fun c => (c, c.outcome explain (c.passes target) true)

theorem map_fst_tested (rule : Rule) (target : Json) (explain : Bool) :
    (rule.tested target explain).map Prod.fst = rule.checks := by
  rw [tested, List.map_map]
  exact List.map_id _

theorem length_checks_evaluate (rule : Rule) (target : Json) (explain : Bool) :
    rule.checks.length = (rule.evaluate target explain).checks.length := by
  rw [checks_evaluate, List.length_map]

theorem zip_checks_evaluate (rule : Rule) (target : Json) (explain : Bool) :
    rule.checks.zip (rule.evaluate target explain).checks = rule.tested target explain := by
  rw [checks_evaluate, tested, Report.zip_map_outcome]

end Rule

/-- The entry of a check, which may be marked if the check failed and is not about presence. -/
structure Detail.IsOf (target : Json) (c : Check) (d : Detail) : Prop where
  id : d.id = c.description
  passed : d.passed = c.passes target
  failed_of_suppressed : d.suppressed = true → d.passed = false
  test_of_suppressed : d.suppressed = true → c.test ≠ .required ∧ c.test ≠ .absent

namespace Report

def brief (r : Report) : Report := { r with details := none }

theorem marks_ruleless (policy : PresencePolicy) (checks : List Check)
    (outcomes : List CheckOutcome) :
    marks policy checks (outcomes.map .ruleless) = marks policy checks outcomes := by
  apply marks_congr policy (List.length_map _)
  rw [List.zip_map_right, List.forall₂_map_right_iff, List.forall₂_same]
  exact fun p _ => ⟨rfl, rfl, rfl⟩

/-- The report that there is without the objects of the rule document is the one with entries cut
short. -/
theorem ofOutcome_ruleless (policy : PresencePolicy) (rule : Rule) (outcome : Outcome) :
    ofOutcome policy rule outcome.ruleless false =
      (ofOutcome policy rule outcome true).brief := by
  rw [ofOutcome, outcome.checks_ruleless, marks_ruleless, List.zip_map_left,
    outcome.valid_ruleless]
  dsimp only
  rw [List.countP_map]
  rfl

section Explain

variable (rule : Rule) (target : Json)

theorem ofOutcome_reportAll_evaluate (explain : Bool) :
    ofOutcome .reportAll rule (rule.evaluate target explain) explain =
      { errors := (rule.tested target explain).countP (!·.2.valid)
        details :=
          if explain then some ((rule.tested target explain).map (detail ·.2 false)) else none
        verdict := (rule.evaluate target explain).valid } := by
  have hchecks := map_snd_checks (rule.length_checks_evaluate target explain)
  rw [Rule.zip_checks_evaluate] at hchecks
  rw [ofOutcome_reportAll (rule.length_checks_evaluate target explain), Rule.zip_checks_evaluate,
    ← hchecks, List.map_map]
  rfl

theorem ofOutcome_failFast_evaluate (explain : Bool) :
    ofOutcome .failFast rule (rule.evaluate target explain) explain =
      { errors := (marked (rule.tested target explain)).countP fun p => !p.1.2.valid && !p.2
        details :=
          if explain then
            some ((marked (rule.tested target explain)).map fun p => detail p.1.2 p.2)
          else none
        verdict := (rule.evaluate target explain).valid } := by
  rw [ofOutcome_failFast (rule.length_checks_evaluate target explain), Rule.zip_checks_evaluate]

/-- A report without entries is the one with entries cut short. -/
theorem ofOutcome_evaluate (policy : PresencePolicy) (explain : Bool) :
    ofOutcome policy rule (rule.evaluate target explain) explain =
      if explain then ofOutcome policy rule (rule.evaluate target true) true
      else (ofOutcome policy rule (rule.evaluate target true) true).brief := by
  cases explain with
  | true => rfl
  | false =>
    rw [← ofOutcome_ruleless, rule.ruleless_evaluate target true]
    rfl

end Explain

theorem isOf_of_mem_marked {rule : Rule} {target : Json} {c : Check} {o : CheckOutcome}
    {mark : Bool} (h : ((c, o), mark) ∈ marked (rule.tested target true)) :
    Detail.IsOf target c (detail o mark) := by
  have htested : (c, o) ∈ rule.tested target true := by
    rw [← map_fst_marked (rule.tested target true)]
    exact List.mem_map_of_mem h
  obtain ⟨c', -, heq⟩ := List.mem_map.1 htested
  cases heq
  refine ⟨rfl, rfl, fun hmark => ?_, fun hmark => ?_⟩
  · by_contra hpassed
    rw [Bool.not_eq_false] at hpassed
    cases hmark.symm.trans (not_marked h (.inl hpassed))
  · have hkept (hpresence : c.test.checksPresence = true) : False := by
      cases hmark.symm.trans (not_marked h (.inr hpresence))
    exact ⟨fun htest => hkept (by rw [htest]; rfl), fun htest => hkept (by rw [htest]; rfl)⟩

section Entries

variable (rule : Rule) (target : Json)

def markedEntries : List Detail :=
  (marked (rule.tested target true)).map fun p => detail p.1.2 p.2

theorem countP_suppressed_markedEntries :
    (markedEntries rule target).countP (·.suppressed) =
      (marked (rule.tested target true)).countP (·.2) := by
  rw [markedEntries, List.countP_map]
  rfl

theorem map_unmarked_markedEntries :
    (markedEntries rule target).map Detail.unmarked =
      (rule.tested target true).map (detail ·.2 false) := by
  conv_rhs => rw [← map_fst_marked (rule.tested target true), List.map_map]
  rw [markedEntries, List.map_map]
  rfl

theorem isOf_markedEntries :
    List.Forall₂ (Detail.IsOf target) rule.checks (markedEntries rule target) := by
  have hchecks : ((marked (rule.tested target true)).map Prod.fst).map Prod.fst = rule.checks := by
    rw [map_fst_marked, Rule.map_fst_tested]
  rw [markedEntries, ← hchecks, List.map_map, List.forall₂_map_left_iff,
    List.forall₂_map_right_iff, List.forall₂_same]
  rintro ⟨⟨c, o⟩, mark⟩ hmem
  exact isOf_of_mem_marked hmem

end Entries

end Report

namespace Engine

def under (e : Engine) (policy : PresencePolicy) : Engine := { e with policy := policy }

theorem validate_under {e : Engine} {document : Json} {rule : Rule}
    (h : e.readRule document = .ok rule) (policy : PresencePolicy) (target : Json)
    (explain : Bool) :
    (e.under policy).validate (some document) target explain =
      .ok (if explain then Report.ofOutcome policy rule (rule.evaluate target true) true
        else (Report.ofOutcome policy rule (rule.evaluate target true) true).brief) := by
  have hread : (e.under policy).readRule document = .ok rule := h
  rw [validate_of_readRule hread, ← Report.ofOutcome_evaluate]
  rfl

/-- The policy changes no answer. The entries are the same but for the marks, which stand at
failures that are not about presence, and the counts differ by the number of the marks. -/
theorem policies_agree_up_to_marks {e : Engine} {document : Json} {rule : Rule}
    (h : e.readRule document = .ok rule) (target : Json) :
    ∃ (whole short : Report) (all fast : List Detail),
      (∀ explain, (e.under .reportAll).validate (some document) target explain =
        .ok (if explain then whole else whole.brief)) ∧
      (∀ explain, (e.under .failFast).validate (some document) target explain =
        .ok (if explain then short else short.brief)) ∧
      whole.details = some all ∧ short.details = some fast ∧
      short.valid = whole.valid ∧ short.verdict = whole.verdict ∧
      (short.errors = 0 ↔ whole.errors = 0) ∧
      whole.errors = short.errors + fast.countP (·.suppressed) ∧
      all = fast.map Detail.unmarked ∧
      List.Forall₂ (Detail.IsOf target) rule.checks fast := by
  have hwhole := Report.ofOutcome_reportAll_evaluate rule target true
  have hshort := Report.ofOutcome_failFast_evaluate rule target true
  have hcount := Report.countP_failed (rule.tested target true)
  have hzero := Report.countP_not_marked_eq_zero_iff (rule.tested target true)
  refine ⟨_, _, (rule.tested target true).map (Report.detail ·.2 false),
    Report.markedEntries rule target, validate_under h .reportAll target,
    validate_under h .failFast target, ?_⟩
  rw [hwhole, hshort]
  refine ⟨rfl, rfl, ?_, rfl, hzero, ?_, ?_, Report.isOf_markedEntries rule target⟩
  · rw [Report.valid, Report.valid, Bool.eq_iff_iff, beq_iff_eq, beq_iff_eq]
    exact hzero
  · rw [Report.countP_suppressed_markedEntries]
    exact hcount
  · exact (Report.map_unmarked_markedEntries rule target).symm

section Age

def ageDocument : Json :=
  RuleHead.groupDocument "AND"
    [RuleHead.checkDocument "required" "$.age", RuleHead.checkDocument "not_empty" "age"]

def ageRule : Rule :=
  .group .all [.check (RuleHead.plainCheck "required" "$.age" [.key "age"] .required),
    .check (RuleHead.plainCheck "not_empty" "age" [.key "age"] .notEmpty)]

theorem ofText_rootedAge : Selector.ofText "$.age" = .ok ⟨"$.age", [.key "age"]⟩ := by
  decide +kernel

theorem ofText_bareAge : Selector.ofText "age" = .ok ⟨"age", [.key "age"]⟩ := by decide +kernel

theorem reads_givenAge : Rule.Reads .builtins (RuleHead.checkDocument "required" "$.age")
    (.check (RuleHead.plainCheck "required" "$.age" [.key "age"] .required)) :=
  .check (RuleHead.ofJson_checkDocument ofText_rootedAge rfl)

theorem reads_filledAge : Rule.Reads .builtins (RuleHead.checkDocument "not_empty" "age")
    (.check (RuleHead.plainCheck "not_empty" "age" [.key "age"] .notEmpty)) :=
  .check (RuleHead.ofJson_checkDocument ofText_bareAge rfl)

theorem readRule_ageDocument : Engine.default.readRule ageDocument = .ok ageRule := by
  have hand : Connective.ofText? "AND" = some .all := by decide +kernel
  exact Rule.ofJson_of_reads (.group (RuleHead.ofJson_groupDocument hand rfl)
    (.cons reads_givenAge (.cons reads_filledAge .nil)))

/-- Without the value both checks fail, and the second failure counts under one policy only. -/
theorem validate_ageDocument :
    Engine.default.readRule ageDocument = .ok ageRule ∧
      ∃ whole short : Report,
        (Engine.default.under .reportAll).validate (some ageDocument) (.object []) true =
          .ok whole ∧
        (Engine.default.under .failFast).validate (some ageDocument) (.object []) true =
          .ok short ∧
        whole.errors = 2 ∧ short.errors = 1 ∧ short.valid = whole.valid := by
  refine ⟨readRule_ageDocument, ?_⟩
  obtain ⟨whole, short, all, fast, hwhole, hshort, -, -, hvalid, -⟩ :=
    policies_agree_up_to_marks readRule_ageDocument (.object [])
  have hread := readRule_ageDocument
  refine ⟨whole, short, hwhole true, hshort true, ?_, ?_, hvalid⟩
  · have hall := (validate_under hread .reportAll (.object []) true).symm.trans (hwhole true)
    cases hall
    rfl
  · have hfast := (validate_under hread .failFast (.object []) true).symm.trans (hshort true)
    cases hfast
    decide

end Age

end Engine

end JsonRules
