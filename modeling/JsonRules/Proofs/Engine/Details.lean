import JsonRules.Proofs.Engine.Cancellation
import JsonRules.Proofs.Engine.PresencePolicy
import JsonRules.Proofs.Report.DetailForm
import JsonRules.Proofs.Rule.WellFormed

namespace JsonRules

def Report.DetailsSurvive (r : Report) : Prop :=
  ∀ details, r.details = some details → ∀ d ∈ details, d.Survives

theorem Report.detailsSurvive_trivial (explain : Bool) : (trivial explain).DetailsSurvive := by
  intro details hdetails d hd
  cases explain with
  | false => cases hdetails
  | true =>
    cases hdetails
    cases hd

theorem Rule.document_ne_null {registry : Registry} {document : Json} {rule : Rule}
    (hread : ofDocument registry document = .ok rule) {c : Check} (hc : c ∈ rule.checks) :
    c.document ≠ .null := by
  obtain ⟨object, hwritten⟩ := exists_isWritten_of_mem (reads_of_ofJson hread) hc
  intro hnull
  have hcommand := hwritten.command
  rw [← hwritten.document, hnull] at hcommand
  cases hcommand

namespace Engine

/-- An entry shows the object of its check. -/
theorem exists_check_of_mem_details {e : Engine} {rule : Rule} {target : Json} {explain : Bool}
    {details : List Detail} (h : (e.validateRule rule target explain).details = some details)
    {d : Detail} (hd : d ∈ details) : ∃ c ∈ rule.checks, d.rule = some c.document := by
  cases explain with
  | false => cases h
  | true =>
    obtain ⟨entries, hentries, hunmarked⟩ := Report.exists_details_ofChecks e.policy target
      rule.checks (rule.evaluate target true).valid
    rw [validateRule, report, Report.ofOutcome_evaluate_eq_ofChecks, hentries] at h
    cases h
    have hentry : d.unmarked ∈ details.map Detail.unmarked := List.mem_map_of_mem hd
    rw [hunmarked] at hentry
    obtain ⟨c, hc, heq⟩ := List.mem_map.1 hentry
    exact ⟨c, hc, (congrArg Detail.rule heq).symm⟩

variable {e : Engine} {target : Json} {explain : Bool} {report : Report}

/-- The object of a check is not null, so the entry shows that there is one. -/
theorem detailsSurvive_validateRule {registry : Registry} {document : Json} {rule : Rule}
    (hread : Rule.ofDocument registry document = .ok rule) :
    (e.validateRule rule target explain).DetailsSurvive := by
  intro details hdetails d hd
  obtain ⟨c, hc, hrule⟩ := exists_check_of_mem_details hdetails hd
  rw [Detail.survives_iff, hrule, ne_eq, Option.some.injEq]
  exact Rule.document_ne_null hread hc

theorem detailsSurvive_validate {rules : Option Json}
    (h : e.validate rules target explain = .ok report) : report.DetailsSurvive := by
  rw [validate] at h
  split at h
  · cases h
    exact Report.detailsSurvive_trivial explain
  · obtain ⟨rule, hread, rfl⟩ := Except.map_eq_ok_iff.1 h
    exact detailsSurvive_validateRule hread

theorem detailsSurvive_settle {registry : Registry} {document : Json} {rule : Rule}
    (hread : Rule.ofDocument registry document = .ok rule) {outcome : Outcome}
    (hyields : rule.Yields target explain outcome)
    (h : e.settle rule outcome explain = .ok report) : report.DetailsSurvive := by
  rw [settle_of_yields hyields (Rule.proper_of_ofDocument hread)] at h
  split at h
  · cases h
    exact detailsSurvive_validateRule hread
  · cases h

theorem detailsSurvive_validateUntil {σ : Type} {watch : Watch σ} {rules : Option Json} {s : σ}
    (h : (e.validateUntil watch rules target explain s).1 = .ok report) :
    report.DetailsSurvive := by
  obtain ⟨document, rule, rfl, hread⟩ | hunasked := e.validateUntil_cases watch rules s
  · rw [validateUntil_eq_settle hread] at h
    exact detailsSurvive_settle hread (Rule.yields_run target explain watch rule s) h
  · rw [hunasked] at h
    exact detailsSurvive_validate (Except.mapError_eq_ok_iff.1 h)

/-- Every entry is read back from what it is written as, whether it stands in a report or was read
itself. The report may be one under a watch, or be made in parallel; what an entry is read from may
be a list of the fields, or any object that says what is needed. -/
theorem details_survive {σ : Type} (e : Engine) (watch : Watch σ) (rules : Option Json)
    (target : Json) (explain : Bool) (s : σ) :
    (∀ report, e.validate rules target explain = .ok report → report.DetailsSurvive) ∧
      (∀ report, (e.validateUntil watch rules target explain s).1 = .ok report →
        report.DetailsSurvive) ∧
      (∀ registry document rule, Rule.ofDocument registry document = .ok rule →
        (e.validateRule rule target explain).DetailsSurvive ∧
          ∀ stoppable n outcome report,
            Task.Steps stoppable target explain (.waiting rule) n (.ended outcome) →
              e.settle rule outcome explain = .ok report → report.DetailsSurvive) ∧
      (∀ v d, Detail.ofJson v = .ok d → d.Survives) ∧
      ∀ (m : SortedMembers Json) (d : Detail),
        Detail.ofJson (.object m.members) = .ok d ↔ d.IsWritten (.object m.members) := by
  refine ⟨fun report => detailsSurvive_validate, fun report => detailsSurvive_validateUntil,
    fun registry document rule hread => ⟨detailsSurvive_validateRule hread, ?_⟩, fun v d h => ?_,
    fun m d => Detail.ofJson_object_eq_ok_iff m⟩
  · intro stoppable n outcome report hsteps
    exact detailsSurvive_settle hread hsteps.yields
  · exact Detail.survives_iff.2 (Detail.rule_ne_null_of_ofJson h)

section Bare

/-- An entry with null for its rule, without a mark, and with a member that no entry has. -/
def bareEntry : SortedMembers Json where
  members := [("ID", .string "age"), ("command", .string "required"), ("note", .string "late"),
    ("passed", .bool false), ("rule", .null), ("title", .string "")]
  sorted := by
    unfold Members.Sorted
    decide +kernel

/-- The bare entry has neither a rule nor a mark; in the report on two failures under one path,
which is the same under a watch and in parallel, the second entry is marked. All three survive. -/
theorem survives_bareEntry :
    Detail.ofJson (.object bareEntry.members) = .ok ⟨"age", "", "required", none, false, false⟩ ∧
      Detail.Survives ⟨"age", "", "required", none, false, false⟩ ∧
      ∃ report given filled,
        (Engine.default.under .failFast).validate (some ageDocument) (.object []) true =
          .ok report ∧
        ((Engine.default.under .failFast).validateUntil (Tokens.watch none) (some ageDocument)
          (.object []) true Tokens.empty).1 = .ok report ∧
        report.details = some [given, filled] ∧ filled.suppressed = true ∧
        filled.rule = some (RuleHead.checkDocument "not_empty" "age") ∧
        given.Survives ∧ filled.Survives ∧
        ∃ n outcome, Task.Steps true (.object []) true (.waiting ageRule) n (.ended outcome) ∧
          (Engine.default.under .failFast).settle ageRule outcome true = .ok report ∧
          report.DetailsSurvive := by
  have hread : (Engine.default.under .failFast).readRule ageDocument = .ok ageRule :=
    readRule_ageDocument
  obtain ⟨hreport, huntil, hrule, haccepted, hobject⟩ :=
    details_survive (Engine.default.under .failFast) (Tokens.watch none) (some ageDocument)
      (.object []) true Tokens.empty
  have hbare : Detail.ofJson (.object bareEntry.members) =
      .ok ⟨"age", "", "required", none, false, false⟩ :=
    (hobject bareEntry _).2 ⟨rfl, rfl, rfl, rfl, rfl, rfl⟩
  have hanswer := validate_of_readRule hread (.object []) true
  have hwatched := congrArg Prod.fst
    (validateUntil_eq_settle hread (Tokens.watch none) (.object []) true Tokens.empty)
  obtain ⟨n, hsteps⟩ := Task.exists_steps_run (Tokens.watch none) ageRule Tokens.empty
  obtain ⟨-, hparallel⟩ := hrule _ _ _ hread
  refine ⟨hbare, haccepted _ _ hbare, _, _, _, hanswer, hwatched, rfl, by decide, rfl, ?_, ?_, n, _,
    hsteps, rfl, ?_⟩
  · exact hreport _ hanswer _ rfl _ List.mem_cons_self
  · exact huntil _ hwatched _ rfl _ (List.mem_cons_of_mem _ List.mem_cons_self)
  · exact hparallel _ _ _ _ hsteps rfl

end Bare

end Engine

end JsonRules
