import JsonRules.Proofs.Engine.Cancellation
import JsonRules.Proofs.Outcome.Place
import Mathlib.Algebra.Group.Nat.Even

namespace JsonRules

/-- The second verdict is at least the first; without `forward` it is at most the first. -/
def Toward (forward a b : Bool) : Prop :=
  if forward then a = true → b = true else b = true → a = true

namespace Connective

/-- The way in which the verdicts of children have to change for that of their group to change in a
given way. -/
def inward (connective : Connective) (forward : Bool) : Bool :=
  if connective = .not then !forward else forward

theorem toward_all {forward : Bool} {as bs : List Bool}
    (h : List.Forall₂ (Toward forward) as bs) : Toward forward (as.all id) (bs.all id) := by
  induction h with
  | nil => cases forward <;> simp [Toward]
  | cons hfirst _ ih => cases forward <;> grind [Toward]

theorem toward_any {forward : Bool} {as bs : List Bool}
    (h : List.Forall₂ (Toward forward) as bs) : Toward forward (as.any id) (bs.any id) := by
  induction h with
  | nil => cases forward <;> simp [Toward]
  | cons hfirst _ ih => cases forward <;> grind [Toward]

/-- A conjunction and a disjunction change as their children do, a negation the other way. -/
theorem toward_combine {connective : Connective} {forward : Bool} {as bs : List Bool}
    (h : List.Forall₂ (Toward (connective.inward forward)) as bs) :
    Toward forward (connective.combine as) (connective.combine bs) := by
  cases connective with
  | all => exact toward_all h
  | any => exact toward_any h
  | not =>
    cases h with
    | nil => cases forward <;> simp [Toward]
    | @cons a b as bs hfirst _ =>
      cases forward <;> cases a <;> cases b <;> simp_all [Toward, inward, combine]

end Connective

namespace Rule

def negationsAbove : List Nat → Rule → Nat
  | [], _ => 0
  | _ :: _, check _ => 0
  | i :: rest, group connective children =>
    (if connective = .not then 1 else 0) + children[i]?.elim 0 (negationsAbove rest)

section Verdicts

variable {document : Json} {explain : Bool}

/-- A negation more turns an even number of negations into an odd one. -/
theorem even_negationsAbove_cons {connective : Connective} {children : List Rule} {i : Nat}
    {r : Rule} {forward : Bool} (h : children[i]? = some r) (place : List Nat) :
    (Even (negationsAbove (i :: place) (group connective children)) ↔ forward = true) ↔
      (Even (r.negationsAbove place) ↔ connective.inward forward = true) := by
  rw [negationsAbove, h, Option.elim_some, Connective.inward]
  by_cases hnot : connective = .not
  · rw [if_pos hnot, if_pos hnot, Nat.add_comm, Nat.even_add_one, Bool.not_eq_true']
    cases forward <;> simp
  · rw [if_neg hnot, if_neg hnot, Nat.zero_add]

/-- What is left out under an even number of negations can only take truth from the verdict, and
what is left out under an odd number can only add it. -/
theorem Traces.toward_evaluate {r : Rule} {o : Outcome} {happens : Event → Prop}
    (h : Traces document explain r o happens) (forward : Bool)
    (hstops : ∀ place, happens (.asked place true) →
      (Even (r.negationsAbove place) ↔ forward = true)) :
    Toward forward o.valid (r.evaluate document explain).valid := by
  induction h generalizing forward with
  | check c _ => cases forward <;> exact id
  | stopped connective children hall =>
    -- a group that stopped has no negations above itself
    have hforward : forward = true := (hstops [] ((hall _).2 rfl)).1 ⟨0, rfl⟩
    rw [valid_skip, hforward]
    exact nofun
  | @entered connective children outcomes happens _ _ hlength _ ih =>
    rw [evaluate, evaluateAll_eq_map]
    refine Connective.toward_combine ?_
    rw [List.map_map, List.forall₂_map_left_iff, List.forall₂_map_right_iff, List.forall₂_iff_get]
    refine ⟨hlength.symm, fun i ho hr => ?_⟩
    have hchild : children[i]? = some children[i] := List.getElem?_eq_getElem hr
    refine ih i children[i] outcomes[i] hchild (List.getElem?_eq_getElem ho) _ ?_
    intro place hplace
    exact (even_negationsAbove_cons hchild place).1 (hstops (i :: place) hplace)

theorem Traces.valid_evaluate {r : Rule} {o : Outcome} {happens : Event → Prop}
    (h : Traces document explain r o happens)
    (heven : ∀ place, happens (.asked place true) → Even (r.negationsAbove place))
    (hvalid : o.valid = true) : (r.evaluate document explain).valid = true :=
  h.toward_evaluate true (fun place hplace => iff_of_true (heven place hplace) rfl) hvalid

/-- An evaluation in which groups were told to stop only under even numbers of negations is not
valid unless the evaluation that nothing stops is. This holds of a run under a watch, and of
whatever may have happened in an evaluation that takes the children of groups in another order or in
parallel. -/
theorem evaluate_valid_of_stopped_under_even_negations {σ : Type} (watch : Watch σ) (r : Rule)
    (target : Json) (explain : Bool) (s : σ) :
    ((∀ place, .asked place true ∈ (r.events watch target [] s).1 →
        Even (r.negationsAbove place)) →
      (r.run watch target explain s).1.valid = true →
        (r.evaluate target explain).valid = true) ∧
    ∀ n outcome, Task.Steps true target explain (.waiting r) n (.ended outcome) →
      (∃ happens, r.Traces target explain outcome happens) ∧
      ∀ happens, r.Traces target explain outcome happens →
        (∀ place, happens (.asked place true) → Even (r.negationsAbove place)) →
          outcome.valid = true → (r.evaluate target explain).valid = true := by
  constructor
  · intro heven hvalid
    exact (traces_run watch target explain r s).valid_evaluate heven hvalid
  · intro n outcome hsteps
    refine ⟨hsteps.yields.exists_traces, fun happens htraces heven hvalid => ?_⟩
    exact htraces.valid_evaluate heven hvalid

end Verdicts

section Denial

def tripCheck : Check := RuleHead.plainCheck "trip" "$" [] (.custom Engine.trip .null)

def thereCheck : Check := RuleHead.plainCheck "required" "$" [] .required

/-- A negation under which a group is left out after a command cancelled the token. -/
def deniedDocument : Json :=
  RuleHead.groupDocument "NOT"
    [RuleHead.groupDocument "AND"
      [RuleHead.checkDocument "trip" "$",
        RuleHead.groupDocument "OR" [RuleHead.checkDocument "required" "$"]]]

def deniedRule : Rule :=
  .group .not [.group .all [.check tripCheck, .group .any [.check thereCheck]]]

theorem readRule_deniedDocument : Engine.tripEngine.readRule deniedDocument = .ok deniedRule := by
  have hroot : Selector.ofText "$" = .ok ⟨"$", []⟩ := by decide +kernel
  have hnot : Connective.ofText? "NOT" = some .not := by decide +kernel
  have hand : Connective.ofText? "AND" = some .all := by decide +kernel
  have hor : Connective.ofText? "OR" = some .any := by decide +kernel
  refine ofJson_of_reads (.group (RuleHead.ofJson_groupDocument hnot rfl) (.cons ?_ .nil))
  refine .group (RuleHead.ofJson_groupDocument hand rfl) (.cons ?_ (.cons ?_ .nil))
  · exact .check (RuleHead.ofJson_checkDocument hroot rfl)
  · refine .group (RuleHead.ofJson_groupDocument hor rfl) (.cons ?_ .nil)
    exact .check (RuleHead.ofJson_checkDocument hroot rfl)

/-- The group that is left out is not valid, and so the negation above it is, which it is not when
nothing stops the evaluation. -/
theorem run_valid_of_stopped_under_negation :
    Engine.tripEngine.readRule deniedDocument = .ok deniedRule ∧
      (deniedRule.run (Tokens.watch (some ⟨0, false⟩)) (.object []) false
        (Tokens.empty.create "t" false)).1.valid = true ∧
      (deniedRule.run (Tokens.watch none) (.object []) false
        (Tokens.empty.create "t" false)).1.valid = false ∧
      (deniedRule.evaluate (.object []) false).valid = false :=
  ⟨readRule_deniedDocument, rfl, rfl, rfl⟩

def deniedTwiceRule : Rule :=
  .group .not [.group .not [.group .any [.check tripCheck, .group .all [.check thereCheck]]]]

/-- Under two negations a group is left out, and the verdict stands. -/
theorem evaluate_valid_deniedTwiceRule :
    (deniedTwiceRule.events (Tokens.watch (some ⟨0, false⟩)) (.object []) []
        (Tokens.empty.create "t" false)).1 =
      [.asked [] false, .asked [0] false, .asked [0, 0] false, .tested [0, 0, 0],
        .asked [0, 0, 1] true] ∧
      deniedTwiceRule.negationsAbove [0, 0, 1] = 2 ∧
      (deniedTwiceRule.run (Tokens.watch (some ⟨0, false⟩)) (.object []) false
        (Tokens.empty.create "t" false)).1.valid = true ∧
      (deniedTwiceRule.evaluate (.object []) false).valid = true := by
  have hevents : (deniedTwiceRule.events (Tokens.watch (some ⟨0, false⟩)) (.object []) []
      (Tokens.empty.create "t" false)).1 =
        [.asked [] false, .asked [0] false, .asked [0, 0] false, .tested [0, 0, 0],
          .asked [0, 0, 1] true] := by decide
  have habove : deniedTwiceRule.negationsAbove [0, 0, 1] = 2 := rfl
  refine ⟨hevents, habove, rfl, ?_⟩
  obtain ⟨hrun, -⟩ := evaluate_valid_of_stopped_under_even_negations
    (Tokens.watch (some ⟨0, false⟩)) deniedTwiceRule (.object []) false
    (Tokens.empty.create "t" false)
  refine hrun (fun place hplace => ?_) rfl
  rw [hevents] at hplace
  have hat : place = [0, 0, 1] := by simpa using hplace
  rw [hat, habove]
  exact ⟨1, rfl⟩

end Denial

end Rule

end JsonRules
