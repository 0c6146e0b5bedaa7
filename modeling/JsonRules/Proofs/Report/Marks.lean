import JsonRules.Proofs.Engine.PresencePolicy
import JsonRules.Proofs.Rule.WellFormed

namespace JsonRules

theorem zip_eraseIdx {α β : Type} (xs : List α) (ys : List β) (j : Nat) :
    (xs.eraseIdx j).zip (ys.eraseIdx j) = (xs.zip ys).eraseIdx j := by
  induction xs generalizing ys j with
  | nil => rfl
  | cons x xs ih =>
    cases ys with
    | nil => simp
    | cons y ys =>
      cases j with
      | zero => rfl
      | succ j => simp only [List.eraseIdx_cons_succ, List.zip_cons_cons, ih]

namespace Test

theorem isRequired_iff {t : Test} : t.isRequired = true ↔ t = required := by
  cases t <;> simp [isRequired]

theorem checksPresence_eq_false_iff {t : Test} :
    t.checksPresence = false ↔ t ≠ required ∧ t ≠ absent := by
  cases t <;> simp [checksPresence]

end Test

namespace Report

/-- At number `i` a check failed that is not about presence, and the test for a required value
failed before on the same path. -/
def FollowsMiss (checks : List Check) (outcomes : List CheckOutcome) (i : Nat) : Prop :=
  ∃ c o, checks[i]? = some c ∧ outcomes[i]? = some o ∧ o.valid = false ∧ c.test ≠ .required ∧
    c.test ≠ .absent ∧ ∃ j < i, ∃ d u, checks[j]? = some d ∧ outcomes[j]? = some u ∧
      d.test = .required ∧ u.valid = false ∧ d.selector.segments = c.selector.segments

section Marking

variable {checks : List Check} {outcomes : List CheckOutcome}

theorem missedAt_zip_iff {segments : List Segment} {j : Nat} :
    MissedAt (checks.zip outcomes) segments j ↔ ∃ d u, checks[j]? = some d ∧
      outcomes[j]? = some u ∧ d.test = .required ∧ u.valid = false ∧
      d.selector.segments = segments := by
  simp only [MissedAt, List.getElem?_zip_eq_some, Test.isRequired_iff, and_assoc]

/-- Nothing is missing at the beginning, so every mark goes back to a check of the list. -/
theorem marks_getElem?_iff {i : Nat} :
    (marks .failFast checks outcomes)[i]? = some true ↔ FollowsMiss checks outcomes i := by
  rw [marks, getElem?_suppressed]
  simp only [List.getElem?_zip_eq_some, Test.checksPresence_eq_false_iff, missedAt_zip_iff,
    List.not_mem_nil, false_or, FollowsMiss]
  apply exists_congr
  intro c
  apply exists_congr
  intro o
  tauto

theorem suppressed_eraseIdx {l : List (Check × CheckOutcome)} {c : Check} {o : CheckOutcome}
    (hc : c.test.isRequired = false) (missing : List (List Segment)) {j : Nat}
    (hj : l[j]? = some (c, o)) :
    suppressed missing (l.eraseIdx j) = (suppressed missing l).eraseIdx j := by
  induction l generalizing missing j with
  | nil => cases hj
  | cons p rest ih =>
    obtain ⟨d, u⟩ := p
    rw [suppressed_cons]
    cases j with
    | zero =>
      cases hj
      have hmissing : missingAfter missing c o = missing := by simp [missingAfter, hc]
      rw [hmissing]
      rfl
    | succ j =>
      rw [List.eraseIdx_cons_succ, List.eraseIdx_cons_succ, suppressed_cons, ih _ hj]

/-- The other marks are what they would be without a check that does not test for a required value.
-/
theorem marks_eraseIdx (hlength : checks.length = outcomes.length) {c : Check}
    (hc : c.test.isRequired = false) {j : Nat} (hj : checks[j]? = some c) :
    marks .failFast (checks.eraseIdx j) (outcomes.eraseIdx j) =
      (marks .failFast checks outcomes).eraseIdx j := by
  have hlt : j < outcomes.length := by
    rw [← hlength]
    exact (List.getElem?_eq_some_iff.1 hj).1
  rw [marks, marks, zip_eraseIdx]
  apply suppressed_eraseIdx hc [] (o := outcomes[j])
  rw [List.getElem?_zip_eq_some]
  exact ⟨hj, List.getElem?_eq_getElem hlt⟩

variable (checks outcomes) in
/-- A mark stands at a failure that is not about presence and comes after a failed test for a
required value on the same path, and nowhere else. A command of the host that has taken the name of
this test makes no mark: its checks might as well not be there. -/
theorem marks_follow_misses (hlength : checks.length = outcomes.length) :
    (marks .failFast checks outcomes).length = checks.length ∧
      (∀ i : Nat, (marks .failFast checks outcomes)[i]? = some true ↔
        FollowsMiss checks outcomes i) ∧
      ∀ (registry : Registry) (predicate : Predicate) (document : Json) (rule : Rule) (c : Check)
        (j : Nat), registry.find? "required" = some (.custom predicate) →
          Rule.ofDocument registry document = .ok rule → c ∈ rule.checks →
            c.command = "required" → checks[j]? = some c →
              (marks .failFast checks outcomes).eraseIdx j =
                marks .failFast (checks.eraseIdx j) (outcomes.eraseIdx j) := by
  refine ⟨?_, fun i => marks_getElem?_iff, ?_⟩
  · rw [length_marks .failFast hlength, hlength]
  · intro registry predicate document rule c j hfind hread hc hcommand hj
    have htest := Rule.test_eq_custom hread hc (hcommand ▸ hfind)
    exact (marks_eraseIdx hlength (by rw [htest]; rfl) hj).symm

end Marking

section Replaced

def never : Predicate := fun _ _ => ⟨false, []⟩

/-- The built-in test for a required value, and a command of the host under its name. -/
def givenAge : Check := RuleHead.plainCheck "required" "$.age" [.key "age"] .required

def neverAge : Check := RuleHead.plainCheck "required" "$.age" [.key "age"] (.custom never .null)

def filledAge : Check := RuleHead.plainCheck "not_empty" "age" [.key "age"] .notEmpty

def failures (checks : List Check) : List CheckOutcome :=
  checks.map fun c => c.outcome false false true

theorem ofDocument_neverAge : Rule.ofDocument (Registry.builtins.register "required" never)
    (RuleHead.checkDocument "required" "$.age") = .ok (.check neverAge) :=
  Rule.ofJson_of_check (RuleHead.ofJson_checkDocument Engine.ofText_rootedAge rfl)

/-- After the failed test for a required value the second failure is marked, though the path is
written differently; after the command that has taken its name it is not. -/
theorem marks_filledAge :
    [givenAge, filledAge].length = (failures [givenAge, filledAge]).length ∧
      (marks .failFast [givenAge, filledAge] (failures [givenAge, filledAge]))[1]? = some true ∧
      (marks .failFast [neverAge, filledAge] (failures [neverAge, filledAge])).eraseIdx 0 =
        [false] := by
  obtain ⟨-, hmarked, -⟩ :=
    marks_follow_misses [givenAge, filledAge] (failures [givenAge, filledAge]) rfl
  obtain ⟨-, -, hreplaced⟩ :=
    marks_follow_misses [neverAge, filledAge] (failures [neverAge, filledAge]) rfl
  refine ⟨rfl, ?_, ?_⟩
  · rw [hmarked]
    refine ⟨filledAge, _, rfl, rfl, rfl, by simp [filledAge, RuleHead.plainCheck],
      by simp [filledAge, RuleHead.plainCheck], 0, Nat.zero_lt_one, givenAge, _, rfl, rfl, rfl,
      rfl, rfl⟩
  · rw [hreplaced (Registry.builtins.register "required" never) never
      (RuleHead.checkDocument "required" "$.age") (.check neverAge) neverAge 0 rfl
      ofDocument_neverAge (List.mem_singleton_self _) rfl rfl]
    rfl

end Replaced

end Report

end JsonRules
