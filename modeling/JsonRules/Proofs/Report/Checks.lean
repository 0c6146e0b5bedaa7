import JsonRules.Proofs.Outcome.Tree
import JsonRules.Proofs.Report.Suppression

namespace JsonRules

def Detail.unmarked (d : Detail) : Detail := { d with suppressed := false }

/-- The entry of a check that has nothing in front of it. -/
def Check.entry (c : Check) (target : Json) : Detail :=
  Report.detail (c.outcome true (c.passes target) true) false

namespace Report

def ofChecks (policy : PresencePolicy) (checks : List Check) (target : Json)
    (explain verdict : Bool) : Report :=
  let outcomes := checks.map fun c => c.outcome explain (c.passes target) true
  let marked := outcomes.zip (marks policy checks outcomes)
  { errors := marked.countP fun (o, suppressed) => !o.valid && !suppressed
    details := if explain then some (marked.map fun (o, s) => detail o s) else none
    verdict := verdict }

/-- The report on checks with the given entries and the given marks. -/
def ofEntries (entries : List Detail) (marks : List Bool) (explain verdict : Bool) : Report :=
  { errors := (entries.zip marks).countP fun (d, mark) => !d.passed && !mark
    details :=
      if explain then some ((entries.zip marks).map fun (d, mark) => { d with suppressed := mark })
      else none
    verdict := verdict }

variable (policy : PresencePolicy) (target : Json)

/-- A report depends on the rule by its checks and its verdict only. -/
theorem ofOutcome_evaluate_eq_ofChecks (rule : Rule) (explain : Bool) :
    ofOutcome policy rule (rule.evaluate target explain) explain =
      ofChecks policy rule.checks target explain (rule.evaluate target explain).valid := by
  rw [ofOutcome, Rule.checks_evaluate]
  rfl

theorem length_marks {checks : List Check} {outcomes : List CheckOutcome}
    (h : checks.length = outcomes.length) :
    (marks policy checks outcomes).length = outcomes.length := by
  cases policy with
  | reportAll => exact List.length_map _
  | failFast => rw [marks, length_suppressed, List.length_zip, h, Nat.min_self]

theorem zip_map_outcome (checks : List Check) (f : Check → CheckOutcome) :
    checks.zip (checks.map f) = checks.map fun c => (c, f c) := by
  rw [← List.zip_map', List.map_id']

/-- A report shows of its checks no more than their entries, and the marks. -/
theorem ofChecks_eq_ofEntries (checks : List Check) (explain verdict : Bool) :
    ofChecks policy checks target explain verdict =
      ofEntries (checks.map fun c => c.entry target)
        (marks policy checks (checks.map fun c => c.outcome explain (c.passes target) true))
        explain verdict := by
  generalize hmarks :
    marks policy checks (checks.map fun c => c.outcome explain (c.passes target) true) = marks
  rw [ofChecks, ofEntries, hmarks]
  simp only [List.zip_map_left, List.countP_map, List.map_map]
  cases explain <;> rfl

/-- There is one entry for each check, and only its mark depends on the other checks. -/
theorem exists_details_ofChecks (checks : List Check) (verdict : Bool) :
    ∃ details, (ofChecks policy checks target true verdict).details = some details ∧
      details.map Detail.unmarked = checks.map fun c => c.entry target := by
  rw [ofChecks_eq_ofEntries]
  refine ⟨_, rfl, ?_⟩
  generalize hmarks : marks policy checks _ = marks
  have hlength : (checks.map fun c => c.entry target).length = marks.length := by
    rw [← hmarks, length_marks policy (List.length_map _).symm, List.length_map, List.length_map]
  calc (((checks.map fun c => c.entry target).zip marks).map _).map Detail.unmarked
      = (((checks.map fun c => c.entry target).zip marks).map Prod.fst).map Detail.unmarked := by
        rw [List.map_map, List.map_map]
        rfl
    _ = checks.map fun c => c.entry target := by
        rw [List.map_fst_zip (Nat.le_of_eq hlength), List.map_map]
        rfl

/-- The failure of a check that stands alone counts under each policy. -/
theorem ofChecks_singleton (c : Check) (verdict : Bool) :
    ofChecks policy [c] target true verdict =
      ⟨if c.passes target then 0 else 1, some [c.entry target], verdict⟩ := by
  have hmarks (o : CheckOutcome) : marks policy [c] [o] = [false] := by
    cases policy with
    | reportAll => rfl
    | failFast => simp [marks, suppressed_cons, suppressed]
  rw [ofChecks]
  simp only [List.map_cons, List.map_nil, hmarks]
  cases h : c.passes target <;> simp [Check.outcome, Check.entry, h]

end Report

end JsonRules
