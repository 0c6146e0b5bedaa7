import JsonRules.Proofs.Engine.PresencePolicy
import JsonRules.Proofs.Rule.WellFormed

namespace JsonRules

namespace Rule

variable {registry : Registry}

theorem Reads.unique {document : Json} {r s : Rule} (hr : Reads registry document r)
    (hs : Reads registry document s) : r = s := by
  have hread : ofJson registry [] document = .ok r := ofJson_of_reads hr
  rw [ofJson_of_reads hs] at hread
  exact (Except.ok.inj hread).symm

/-- The checks of a rule are determined by the objects that write them, wherever these stand. -/
theorem checks_eq_of_checkObjects_eq {first second : Json} {r s : Rule}
    (hr : Reads registry first r) (hs : Reads registry second s)
    (hsame : first.checkObjects = second.checkObjects) : r.checks = s.checks := by
  have hfirst := reads_checkObjects hr
  have hsecond := reads_checkObjects hs
  rw [hsame] at hfirst
  refine List.right_unique_forall₂' ?_ hfirst hsecond
  intro object c d hc hd
  exact Rule.check.inj (hc.unique hd)

end Rule

namespace Engine

/-- Two rule documents that list the same objects of checks have the same counts and entries,
however the checks are grouped and the groups are connected. Only their verdicts may differ. -/
theorem validate_whatever_grouping {e : Engine} {first second : Json} {r s : Rule}
    (hfirst : e.readRule first = .ok r) (hsecond : e.readRule second = .ok s)
    (hsame : first.checkObjects = second.checkObjects) (target : Json) (explain : Bool) :
    ∃ report other,
      e.validate (some first) target explain = .ok report ∧
      e.validate (some second) target explain = .ok other ∧
      other.errors = report.errors ∧ other.valid = report.valid ∧
      other.details = report.details := by
  have hchecks : r.checks = s.checks := Rule.checks_eq_of_checkObjects_eq
    (Rule.reads_of_ofJson hfirst) (Rule.reads_of_ofJson hsecond) hsame
  refine ⟨_, _, validate_eq_ofChecks hfirst target explain,
    validate_eq_ofChecks hsecond target explain, ?_⟩
  rw [hchecks]
  exact ⟨rfl, rfl, rfl⟩

section Age

def agelessDocument : Json :=
  RuleHead.groupDocument "OR"
    [RuleHead.groupDocument "NOT" [RuleHead.checkDocument "required" "$.age"],
      RuleHead.groupDocument "AND" [RuleHead.checkDocument "not_empty" "age"]]

def agelessRule : Rule :=
  .group .any
    [.group .not [.check (RuleHead.plainCheck "required" "$.age" [.key "age"] .required)],
      .group .all [.check (RuleHead.plainCheck "not_empty" "age" [.key "age"] .notEmpty)]]

theorem readRule_agelessDocument : Engine.default.readRule agelessDocument = .ok agelessRule := by
  have hor : Connective.ofText? "OR" = some .any := by decide +kernel
  have hnot : Connective.ofText? "NOT" = some .not := by decide +kernel
  have hand : Connective.ofText? "AND" = some .all := by decide +kernel
  refine Rule.ofJson_of_reads
    (.group (RuleHead.ofJson_groupDocument hor rfl) (.cons ?_ (.cons ?_ .nil)))
  · exact .group (RuleHead.ofJson_groupDocument hnot rfl) (.cons reads_givenAge .nil)
  · exact .group (RuleHead.ofJson_groupDocument hand rfl) (.cons reads_filledAge .nil)

theorem checkObjects_agelessDocument :
    agelessDocument.checkObjects = ageDocument.checkObjects := by
  simp [agelessDocument, ageDocument, Json.checkObjects_groupDocument]

/-- Both checks fail on a document without the value, so one group of them says no and the other
one yes. The counts and the entries are the same, and so is the mark at the second one. -/
theorem validate_agelessDocument :
    ageDocument.checkObjects = agelessDocument.checkObjects ∧
      ∃ report other,
        (Engine.default.under .failFast).validate (some ageDocument) (.object []) true =
          .ok report ∧
        (Engine.default.under .failFast).validate (some agelessDocument) (.object []) true =
          .ok other ∧
        report.errors = 1 ∧ other.errors = 1 ∧ other.details = report.details ∧
        report.verdict = false ∧ other.verdict = true := by
  have hread : (Engine.default.under .failFast).readRule ageDocument = .ok ageRule :=
    readRule_ageDocument
  have hother : (Engine.default.under .failFast).readRule agelessDocument = .ok agelessRule :=
    readRule_agelessDocument
  refine ⟨checkObjects_agelessDocument.symm, ?_⟩
  obtain ⟨report, other, hreport, hanswer, herrors, -, hdetails⟩ :=
    validate_whatever_grouping hread hother checkObjects_agelessDocument.symm (.object []) true
  cases (validate_of_readRule hread (.object []) true).symm.trans hreport
  cases (validate_of_readRule hother (.object []) true).symm.trans hanswer
  exact ⟨_, _, hreport, hanswer, by decide, herrors.trans (by decide), hdetails, rfl, rfl⟩

end Age

end Engine

end JsonRules
