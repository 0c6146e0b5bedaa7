import JsonRules.Proofs.Engine.PresencePolicy
import JsonRules.Proofs.Rule.Spelling

namespace JsonRules

def Detail.ruleless (d : Detail) : Detail := { d with rule := none }

namespace Report

def ruleless (r : Report) : Report := { r with details := r.details.map (·.map Detail.ruleless) }

theorem ruleless_ofEntries (entries : List Detail) (marks : List Bool) (explain verdict : Bool) :
    (ofEntries entries marks explain verdict).ruleless =
      ofEntries (entries.map Detail.ruleless) marks explain verdict := by
  rw [ruleless, ofEntries, ofEntries, List.zip_map_left, List.countP_map, List.map_map]
  cases explain with
  | false => rfl
  | true =>
    simp only [if_true, Option.map_some, List.map_map]
    rfl

variable (policy : PresencePolicy) (target : Json) (explain verdict : Bool)

/-- The marks depend on where paths lead and not on how they are spelled. -/
theorem marks_of_respelled {checks others : List Check}
    (h : List.Forall₂ Check.Respelled checks others) :
    marks policy others (others.map fun c => c.outcome explain (c.passes target) true) =
      marks policy checks (checks.map fun c => c.outcome explain (c.passes target) true) := by
  refine marks_congr policy ?_ ?_
  · rw [List.length_map, List.length_map, h.length_eq]
  · rw [zip_map_outcome, zip_map_outcome, List.forall₂_map_left_iff, List.forall₂_map_right_iff]
    exact h.imp fun c other hsame => ⟨hsame.test, hsame.segments, hsame.passes_eq target⟩

theorem ruleless_ofChecks_of_respelled {checks others : List Check}
    (h : List.Forall₂ Check.Respelled checks others) :
    (ofChecks policy others target explain verdict).ruleless =
      (ofChecks policy checks target explain verdict).ruleless := by
  have hentries : (others.map fun c => c.entry target).map Detail.ruleless =
      (checks.map fun c => c.entry target).map Detail.ruleless := by
    rw [List.map_map, List.map_map, ← List.forall₂_eq_eq_eq, List.forall₂_map_left_iff,
      List.forall₂_map_right_iff]
    refine h.flip.imp fun other c hsame => ?_
    simp only [Function.comp_apply, Check.entry, Check.outcome, detail, Detail.ruleless,
      hsame.passes_eq, hsame.description, hsame.comment, hsame.command]
  rw [ofChecks_eq_ofEntries, ofChecks_eq_ofEntries, ruleless_ofEntries, ruleless_ofEntries,
    hentries, marks_of_respelled policy target explain h]

end Report

namespace Engine

/-- Two rule documents that spell the same paths in different ways are both rules or neither is,
with the same error. As rules they say the same of each document, and only the objects repeated in
the entries differ. -/
theorem validate_whatever_spelling {document other : Json} (h : document.Respelled other)
    (e : Engine) :
    (∃ error, e.readRule document = .error error ∧ e.readRule other = .error error) ∨
      ∃ r s, e.readRule document = .ok r ∧ e.readRule other = .ok s ∧
        ∀ target explain, ∃ report twin,
          e.validate (some document) target explain = .ok report ∧
          e.validate (some other) target explain = .ok twin ∧
          twin.valid = report.valid ∧ twin.errors = report.errors ∧
          twin.verdict = report.verdict ∧
          twin.details.map (·.map Detail.ruleless) =
            report.details.map (·.map Detail.ruleless) := by
  have hagree : (e.readRule document).Agree Rule.Respelled (e.readRule other) :=
    Rule.ofJson_agree [] h
  generalize hr : e.readRule document = first at hagree
  generalize hs : e.readRule other = second at hagree
  cases hagree with
  | error error => exact .inl ⟨error, rfl, rfl⟩
  | @ok r s hrules =>
    refine .inr ⟨r, s, rfl, rfl, fun target explain => ?_⟩
    have hreport := validate_eq_ofChecks hr target explain
    have htwin := validate_eq_ofChecks hs target explain
    rw [hrules.valid_evaluate] at htwin
    have hsame := Report.ruleless_ofChecks_of_respelled e.policy target explain
      (r.evaluate target explain).valid hrules.checks
    have herrors := congrArg Report.errors hsame
    exact ⟨_, _, hreport, htwin, congrArg (· == 0) herrors, herrors, rfl,
      congrArg Report.details hsame⟩

section Age

def titledCheck (command path title : String) : Json :=
  .object [("command", .string command), ("description", .string title),
    ("selector", .string path)]

def titledDocument (given filled : String) : Json :=
  RuleHead.groupDocument "AND"
    [titledCheck "required" given "is given", titledCheck "not_empty" filled "is filled"]

theorem titledCheck_respelled {command text spelling title : String} {path : List Segment}
    (hpath : Selector.ofText text = .ok ⟨text, path⟩)
    (hsame : Selector.ofText spelling = .ok ⟨spelling, path⟩) :
    (titledCheck command text title).Respelled (titledCheck command spelling title) := by
  refine .check rfl rfl hpath hsame rfl fun key hkey => ?_
  simp only [titledCheck, Json.get?, List.lookup_cons, beq_false_of_ne hkey]

theorem titledDocument_respelled :
    (titledDocument "$.age" "age").Respelled (titledDocument " age " "$['age']") := by
  have hpadded : Selector.ofText " age " = .ok ⟨" age ", [.key "age"]⟩ := by decide +kernel
  have hquoted : Selector.ofText "$['age']" = .ok ⟨"$['age']", [.key "age"]⟩ := by decide +kernel
  refine .group rfl rfl rfl (fun key hkey => ?_)
    (.cons (titledCheck_respelled ofText_rootedAge hpadded)
      (.cons (titledCheck_respelled ofText_bareAge hquoted) .nil))
  simp only [titledDocument, RuleHead.groupDocument, Json.get?, List.lookup_cons,
    beq_false_of_ne hkey]

theorem reads_titledCheck {command path title : String} {segments : List Segment} {test : Test}
    (hpath : Selector.ofText path = .ok ⟨path, segments⟩)
    (htest : RuleHead.prepare .builtins command .null = .ok test) :
    Rule.Reads .builtins (titledCheck command path title)
      (.check { RuleHead.plainCheck command path segments test with
        description := title
        document := titledCheck command path title }) := by
  refine .check (RuleHead.ofJson_eq_ok_iff.2 (.check rfl ?_))
  refine RuleHead.readCheck_eq_ok_iff.1 ?_
  simp [RuleHead.readCheck, RuleHead.requiredString, RuleHead.optionalString, List.lookup_cons,
    RuleHead.readSelector_of_ofText hpath, htest, RuleHead.plainCheck, titledCheck, bind,
    Except.bind, pure, Except.pure]

theorem exists_readRule_titledDocument :
    ∃ rule, (Engine.default.under .failFast).readRule (titledDocument "$.age" "age") = .ok rule ∧
      ((Engine.default.under .failFast).validateRule rule (.object []) true).errors = 1 := by
  have hand : Connective.ofText? "AND" = some .all := by decide +kernel
  refine ⟨_, Rule.ofJson_of_reads (.group (RuleHead.ofJson_groupDocument hand rfl)
    (.cons (reads_titledCheck ofText_rootedAge rfl)
      (.cons (reads_titledCheck ofText_bareAge rfl) .nil))), ?_⟩
  decide

/-- The second failure follows the first one on the same path, which is spelled in four ways. -/
theorem validate_titledDocument :
    (titledDocument "$.age" "age").Respelled (titledDocument " age " "$['age']") ∧
      ∃ report twin,
        (Engine.default.under .failFast).validate (some (titledDocument "$.age" "age"))
          (.object []) true = .ok report ∧
        (Engine.default.under .failFast).validate (some (titledDocument " age " "$['age']"))
          (.object []) true = .ok twin ∧
        report.errors = 1 ∧ twin.errors = 1 := by
  refine ⟨titledDocument_respelled, ?_⟩
  obtain ⟨rule, hread, hcount⟩ := exists_readRule_titledDocument
  obtain ⟨error, herror, -⟩ | ⟨r, s, -, -, hvalidate⟩ :=
    validate_whatever_spelling titledDocument_respelled (Engine.default.under .failFast)
  · cases hread.symm.trans herror
  · obtain ⟨report, twin, hreport, htwin, -, herrors, -⟩ := hvalidate (.object []) true
    cases (validate_of_readRule hread (.object []) true).symm.trans hreport
    exact ⟨_, _, hreport, htwin, hcount, herrors.trans hcount⟩

end Age

end Engine

end JsonRules
