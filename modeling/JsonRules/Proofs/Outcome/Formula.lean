import JsonRules.Proofs.Outcome.Schedule
import JsonRules.Proofs.Rule.Reading

namespace JsonRules

/-- What a check says of a document when it is a rule of its own. -/
def Check.Alone (document : Json) (explain : Bool) (c : Check) : Prop :=
  ((Rule.check c).evaluate document explain).valid = true

namespace Rule

/-- Whether the formula that a rule writes is true, where `p` tells which checks are. -/
def Holds (p : Check → Prop) : Rule → Prop
  | check c => p c
  | group .all children => ∀ r, r ∈ children → Holds p r
  | group .any children => ∃ r, ∃ _ : r ∈ children, Holds p r
  | group .not children => ∃ r, ∃ _ : children = [r], ¬ Holds p r

/-- An outcome that says what the rule means: it has the shape of the rule, each check was evaluated
as if it stood alone, and each group is valid if the formula under it is true. -/
inductive Tells (document : Json) (explain : Bool) : Rule → Outcome → Prop
  | check {c : Check} {o : CheckOutcome} :
      (Rule.check c).evaluate document explain = .check o → o.evaluated = true →
        Tells document explain (.check c) (.check o)
  | group {connective : Connective} {valid : Bool} {children : List Rule}
      {outcomes : List Outcome} :
      (valid = true ↔ Holds (Check.Alone document explain) (.group connective children)) →
        List.Forall₂ (Tells document explain) children outcomes →
        Tells document explain (.group connective children) (.group connective valid outcomes)

theorem Tells.valid_iff_holds {document : Json} {explain : Bool} {r : Rule} {o : Outcome}
    (h : Tells document explain r o) :
    o.valid = true ↔ r.Holds (Check.Alone document explain) := by
  cases h with
  | check halone _ => rw [Holds, Check.Alone, halone]
  | group hvalid _ => exact hvalid

/-- The verdicts of the children make the truth of a formula, if they are the truth of the children
and are as many as the connective takes. -/
theorem combine_map_iff_holds {p : Check → Prop} {f : Rule → Bool} {connective : Connective}
    {children : List Rule} (htakes : connective.Takes children.length)
    (h : ∀ r ∈ children, (f r = true ↔ r.Holds p)) :
    connective.combine (children.map f) = true ↔ Holds p (.group connective children) := by
  cases connective with
  | all =>
    rw [Holds, Connective.combine, List.all_map, List.all_eq_true]
    exact forall₂_congr h
  | any =>
    rw [Holds, Connective.combine, List.any_map, List.any_eq_true]
    constructor
    · rintro ⟨r, hr, hf⟩
      exact ⟨r, hr, (h r hr).1 hf⟩
    · rintro ⟨r, hr, hholds⟩
      exact ⟨r, hr, (h r hr).2 hholds⟩
  | not =>
    -- the only place where the number of children matters: the others are not looked at
    obtain ⟨r, rfl⟩ := List.length_eq_one_iff.1 htakes
    have hr := h r (List.mem_singleton_self r)
    rw [Holds, Connective.combine, List.map_singleton, List.head?_cons]
    constructor
    · intro hf
      refine ⟨r, rfl, fun hholds => ?_⟩
      rw [hr.2 hholds] at hf
      cases hf
    · rintro ⟨_, heq, hfails⟩
      cases heq
      rw [← hr, Bool.not_eq_true] at hfails
      rw [hfails]
      rfl

theorem tells_evaluate (document : Json) (explain : Bool) {r : Rule} (h : r.Proper) :
    Tells document explain r (r.evaluate document explain) := by
  induction r with
  | check c => exact .check rfl rfl
  | group connective children ih =>
    have htells (r : Rule) (hr : r ∈ children) := ih r hr (h.of_mem hr)
    rw [evaluate, evaluateAll_eq_map]
    -- the verdict of the group is made from those that are stored at its children
    refine .group ?_ ?_
    · rw [List.map_map]
      exact combine_map_iff_holds h.takes fun r hr => (htells r hr).valid_iff_holds
    · rw [List.forall₂_map_right_iff]
      exact List.forall₂_same.2 htells

/-- The evaluation of a rule document says what the document means: node for node, with every check
evaluated as if it stood alone and every group valid if its formula is true. A run without a token
gives the same, in whatever order it evaluates the children of groups. -/
theorem evaluate_says_what_rule_means {registry : Registry} {document : Json} {r : Rule}
    (h : ofDocument registry document = .ok r) (target : Json) (explain : Bool) :
    Tells target explain r (r.evaluate target explain) ∧
      ((r.evaluate target explain).valid = true ↔ r.Holds (Check.Alone target explain)) ∧
      (∀ tokens, (r.run (Tokens.watch none) target explain tokens).1 =
        r.evaluate target explain) ∧
      ∀ n outcome, Task.Steps false target explain (.waiting r) n (.ended outcome) →
        outcome = r.evaluate target explain := by
  have htells := tells_evaluate target explain (proper_of_ofDocument h)
  refine ⟨htells, htells.valid_iff_holds, fun tokens => ?_, fun n outcome => ?_⟩
  · exact run_eq_evaluate target explain (fun _ => rfl) r tokens
  · exact Task.Steps.eq_evaluate

section Negation

def neitherDocument : Json :=
  RuleHead.groupDocument "not" [RuleHead.groupDocument "or"
    [RuleHead.checkDocument "required" "$.banned", RuleHead.checkDocument "required" "$.expired"]]

def neitherRule : Rule :=
  .group .not [.group .any
    [.check (RuleHead.plainCheck "required" "$.banned" [.key "banned"] .required),
      .check (RuleHead.plainCheck "required" "$.expired" [.key "expired"] .required)]]

theorem ofDocument_neitherDocument : ofDocument .builtins neitherDocument = .ok neitherRule := by
  have hbanned : Selector.ofText "$.banned" = .ok ⟨"$.banned", [.key "banned"]⟩ := by
    decide +kernel
  have hexpired : Selector.ofText "$.expired" = .ok ⟨"$.expired", [.key "expired"]⟩ := by
    decide +kernel
  have hnot : Connective.ofText? "not" = some .not := by decide +kernel
  have hor : Connective.ofText? "or" = some .any := by decide +kernel
  refine ofJson_of_reads (.group (RuleHead.ofJson_groupDocument hnot rfl) (.cons ?_ .nil))
  refine .group (RuleHead.ofJson_groupDocument hor rfl) (.cons ?_ (.cons ?_ .nil))
  · exact .check (RuleHead.ofJson_checkDocument hbanned rfl)
  · exact .check (RuleHead.ofJson_checkDocument hexpired rfl)

/-- The negation is true of a document without members, although no check passes. -/
theorem evaluate_neitherDocument :
    ofDocument .builtins neitherDocument = .ok neitherRule ∧
      (neitherRule.evaluate (.object []) false).valid = true ∧
      neitherRule.Holds (Check.Alone (.object []) false) := by
  have hmeans := evaluate_says_what_rule_means ofDocument_neitherDocument (.object []) false
  exact ⟨ofDocument_neitherDocument, rfl, hmeans.2.1.1 rfl⟩

end Negation

end Rule

end JsonRules
