import JsonRules.Proofs.Engine.PresencePolicy
import JsonRules.Proofs.Rule.WellFormed

namespace JsonRules

/-- The entry repeats the object of a check, and a validation against the repeated object alone has
one entry, which is the same but for a mark, and one error if the check failed. -/
structure Detail.Echoes (e : Engine) (target object : Json) (d : Detail) : Prop where
  rule : d.rule = some object
  alone : ∃ report entry,
    e.validate d.rule target true = .ok report ∧ report.details = some [entry] ∧
      entry.id = d.id ∧ entry.title = d.title ∧ entry.command = d.command ∧
      entry.rule = d.rule ∧ entry.passed = d.passed ∧ (report.errors = 1 ↔ d.passed = false)

namespace Engine

variable {e : Engine} {target object : Json}

theorem validate_alone {c : Check} (h : Rule.Reads e.registry object (.check c)) (target : Json) :
    ∃ report, e.validate (some object) target true = .ok report ∧
      report.details = some [c.entry target] ∧
      (report.errors = 1 ↔ (c.entry target).passed = false) := by
  have hread : e.readRule object = .ok (.check c) := Rule.ofJson_of_reads h
  refine ⟨_, validate_eq_ofChecks hread target true, ?_⟩
  rw [Rule.checks, Report.ofChecks_singleton]
  refine ⟨rfl, ?_⟩
  change (if c.passes target then 0 else 1) = 1 ↔ c.passes target = false
  cases c.passes target <;> simp

/-- The entry of a check is the same among others as it is alone, apart from the mark. -/
theorem echoes_of_unmarked {c : Check} {d : Detail} (h : Rule.Reads e.registry object (.check c))
    (hd : d.unmarked = c.entry target) : d.Echoes e target object := by
  have hrule : d.rule = some object := by
    have hentry : d.unmarked.rule = some c.document := congrArg Detail.rule hd
    rwa [(Rule.isWritten_of_reads h).document] at hentry
  obtain ⟨report, hreport, hdetails, herrors⟩ := validate_alone h target
  rw [← hd] at hdetails herrors
  rw [← hrule] at hreport
  exact ⟨hrule, report, d.unmarked, hreport, hdetails, rfl, rfl, rfl, rfl, rfl, herrors⟩

/-- A report has one entry for each object that writes a check, in the order of the document. The
entry repeats the object, and the object alone is found to say the same of the same document. -/
theorem details_echo_checkObjects {document : Json} {rule : Rule}
    (h : e.readRule document = .ok rule) (target : Json) :
    ∃ report details,
      e.validate (some document) target true = .ok report ∧ report.details = some details ∧
      List.Forall₂ (Detail.Echoes e target) document.checkObjects details := by
  obtain ⟨details, hdetails, hunmarked⟩ := Report.exists_details_ofChecks e.policy target
    rule.checks (rule.evaluate target true).valid
  refine ⟨_, details, validate_eq_ofChecks h target true, hdetails, ?_⟩
  have hreads := Rule.reads_checkObjects (Rule.reads_of_ofJson h)
  have hentries : List.Forall₂ (fun object entry => ∃ c, Rule.Reads e.registry object (.check c) ∧
      entry = c.entry target) document.checkObjects (rule.checks.map fun c => c.entry target) := by
    rw [List.forall₂_map_right_iff]
    exact hreads.imp fun object c hread => ⟨c, hread, rfl⟩
  rw [← hunmarked, List.forall₂_map_right_iff] at hentries
  refine hentries.imp fun object d hentry => ?_
  obtain ⟨c, hread, hd⟩ := hentry
  exact echoes_of_unmarked hread hd

section Age

theorem checkObjects_ageDocument :
    ageDocument.checkObjects =
      [RuleHead.checkDocument "required" "$.age", RuleHead.checkDocument "not_empty" "age"] := by
  have hcheck (command path : String) : (RuleHead.checkDocument command path).checkObjects =
      [RuleHead.checkDocument command path] := Json.checkObjects_of_check rfl
  rw [ageDocument, Json.checkObjects_groupDocument]
  simp [hcheck]

/-- The failure of the second check does not count after that of the first, but it does when the
object of the second check is all there is. -/
theorem echoes_ageDocument :
    (Engine.default.under .failFast).readRule ageDocument = .ok ageRule ∧
      ∃ report given filled,
        (Engine.default.under .failFast).validate (some ageDocument) (.object []) true =
          .ok report ∧
        report.details = some [given, filled] ∧ report.errors = 1 ∧ filled.suppressed = true ∧
        filled.rule = some (RuleHead.checkDocument "not_empty" "age") ∧
        ∃ alone entry,
          (Engine.default.under .failFast).validate filled.rule (.object []) true = .ok alone ∧
          alone.details = some [entry] ∧ entry.id = filled.id ∧ alone.errors = 1 := by
  have hread : (Engine.default.under .failFast).readRule ageDocument = .ok ageRule :=
    readRule_ageDocument
  refine ⟨hread, ?_⟩
  obtain ⟨report, details, hreport, hdetails, hechoes⟩ :=
    details_echo_checkObjects hread (.object [])
  rw [checkObjects_ageDocument] at hechoes
  obtain _ | ⟨-, _ | ⟨hfilled, _ | _⟩⟩ := hechoes
  obtain ⟨alone, entry, hanswer, hentry, hid, -, -, -, -, herrors⟩ := hfilled.alone
  cases (validate_of_readRule hread (.object []) true).symm.trans hreport
  cases hdetails
  refine ⟨_, _, _, hreport, rfl, by decide, by decide, hfilled.rule, alone, entry, hanswer, hentry,
    hid, herrors.2 rfl⟩

end Age

end Engine

end JsonRules
