import JsonRules.Proofs.Outcome.Schedule

namespace JsonRules

def CheckOutcome.ruleless (o : CheckOutcome) : CheckOutcome := { o with rule := none }

namespace Outcome

mutual

def ruleless : Outcome → Outcome
  | check c => .check c.ruleless
  | group connective valid children => .group connective valid (rulelessAll children)

def rulelessAll : List Outcome → List Outcome
  | [] => []
  | o :: rest => ruleless o :: rulelessAll rest

end

theorem rulelessAll_eq_map (outcomes : List Outcome) :
    rulelessAll outcomes = outcomes.map ruleless := by
  induction outcomes with
  | nil => rfl
  | cons o rest ih => rw [rulelessAll, ih, List.map_cons]

theorem valid_ruleless (o : Outcome) : o.ruleless.valid = o.valid := by
  cases o <;> rfl

theorem map_valid_rulelessAll (outcomes : List Outcome) :
    (rulelessAll outcomes).map valid = outcomes.map valid := by
  rw [rulelessAll_eq_map, List.map_map]
  exact List.map_congr_left fun o _ => valid_ruleless o

theorem checks_ruleless (o : Outcome) : o.ruleless.checks = o.checks.map .ruleless := by
  induction o with
  | check c => rfl
  | group connective valid children ih =>
    rw [ruleless, checks, checks, rulelessAll_eq_map, checksOf_eq_flatMap, checksOf_eq_flatMap,
      List.flatMap_map, List.map_flatMap, List.flatMap_def, List.flatMap_def,
      List.map_congr_left ih]

theorem countP_evaluated_ruleless (o : Outcome) :
    o.ruleless.checks.countP (·.evaluated) = o.checks.countP (·.evaluated) := by
  rw [checks_ruleless, List.countP_map]
  rfl

theorem isComplete_ruleless (o : Outcome) : o.ruleless.isComplete = o.isComplete := by
  rw [isComplete_eq_all, isComplete_eq_all, checks_ruleless, List.all_map]
  rfl

end Outcome

namespace Rule

variable (document : Json) (explain : Bool)

theorem ruleless_evaluate (r : Rule) :
    (r.evaluate document explain).ruleless = r.evaluate document false := by
  induction r with
  | check c => rfl
  | group connective children ih =>
    have hchildren : Outcome.rulelessAll (evaluateAll document explain children) =
        evaluateAll document false children := by
      rw [Outcome.rulelessAll_eq_map, evaluateAll_eq_map, evaluateAll_eq_map, List.map_map]
      exact List.map_congr_left ih
    rw [evaluate, evaluate, ← hchildren, Outcome.ruleless, Outcome.map_valid_rulelessAll]

theorem ruleless_skip (r : Rule) : (r.skip explain).ruleless = r.skip false := by
  induction r with
  | check c => rfl
  | group connective children ih =>
    rw [skip, skip, Outcome.ruleless, Outcome.rulelessAll_eq_map, skipAll_eq_map, skipAll_eq_map,
      List.map_map]
    exact congrArg (Outcome.group connective false) (List.map_congr_left ih)

section Runs

variable {σ : Type} (watch : Watch σ)

mutual

/-- The watch is asked the same questions whether the objects of the rule document are asked for or
not, and the outcome is the same but for these. -/
theorem run_false_eq (r : Rule) (s : σ) :
    run watch document false r s =
      ((run watch document explain r s).1.ruleless, (run watch document explain r s).2) := by
  cases r with
  | check c => rfl
  | group connective children =>
    rcases hstops : watch.stops s with ⟨_ | _, t⟩
    · rw [run_entered hstops, run_entered hstops, runAll_false_eq children t, Outcome.ruleless,
        Outcome.map_valid_rulelessAll]
    · rw [run_stopped hstops, run_stopped hstops, ruleless_skip]

theorem runAll_false_eq (rules : List Rule) (s : σ) :
    runAll watch document false rules s =
      (Outcome.rulelessAll (runAll watch document explain rules s).1,
        (runAll watch document explain rules s).2) := by
  cases rules with
  | nil => rfl
  | cons r rest =>
    simp only [runAll, run_false_eq r s, runAll_false_eq rest, Outcome.rulelessAll]

end

end Runs

end Rule

namespace Task

mutual

/-- The same task with no object of the rule document in the outcomes that it has so far. -/
def ruleless : Task → Task
  | waiting r => .waiting r
  | entered connective children => .entered connective (rulelessAll children)
  | ended o => .ended o.ruleless

def rulelessAll : List Task → List Task
  | [] => []
  | t :: rest => ruleless t :: rulelessAll rest

end

theorem rulelessAll_eq_map (tasks : List Task) : rulelessAll tasks = tasks.map ruleless := by
  induction tasks with
  | nil => rfl
  | cons t rest ih => rw [rulelessAll, ih, List.map_cons]

theorem rulelessAll_map_waiting (rules : List Rule) :
    rulelessAll (rules.map waiting) = rules.map waiting := by
  rw [rulelessAll_eq_map, List.map_map]
  rfl

theorem rulelessAll_map_ended (outcomes : List Outcome) :
    rulelessAll (outcomes.map ended) = (Outcome.rulelessAll outcomes).map ended := by
  rw [rulelessAll_eq_map, Outcome.rulelessAll_eq_map, List.map_map, List.map_map]
  rfl

theorem ended_of_rulelessAll {tasks : List Task} {outcomes : List Outcome}
    (h : rulelessAll tasks = outcomes.map ended) :
    ∃ fulls, tasks = fulls.map ended ∧ Outcome.rulelessAll fulls = outcomes := by
  induction tasks generalizing outcomes with
  | nil =>
    cases outcomes with
    | nil => exact ⟨[], rfl, rfl⟩
    | cons => cases h
  | cons t rest ih =>
    cases outcomes with
    | nil => cases h
    | cons o outcomes =>
      rw [rulelessAll, List.map_cons, List.cons.injEq] at h
      obtain ⟨hfirst, hrest⟩ := h
      obtain ⟨fulls, rfl, rfl⟩ := ih hrest
      cases t with
      | ended full =>
        cases hfirst
        exact ⟨full :: fulls, rfl, rfl⟩
      | _ => cases hfirst

section Steps

variable {stoppable : Bool} {document : Json} {explain : Bool} {t t' : Task} {n : Nat}

theorem Step.ruleless (h : Step stoppable document explain t n t') :
    Step stoppable document false t.ruleless n t'.ruleless := by
  induction h with
  | test c => exact .test c
  | stop connective children hstop =>
    rw [Task.ruleless, Task.ruleless, Rule.ruleless_skip]
    exact .stop connective children hstop
  | enter connective children =>
    rw [Task.ruleless, Task.ruleless, rulelessAll_map_waiting]
    exact .enter connective children
  | child connective before after _ ih =>
    simp only [Task.ruleless, rulelessAll_eq_map, List.map_append, List.map_cons]
    exact .child connective _ _ ih
  | close connective outcomes =>
    rw [Task.ruleless, Task.ruleless, rulelessAll_map_ended, Outcome.ruleless,
      ← Outcome.map_valid_rulelessAll]
    exact .close connective _

theorem Steps.ruleless (h : Steps stoppable document explain t n t') :
    Steps stoppable document false t.ruleless n t'.ruleless := by
  induction h with
  | refl => exact .refl
  | tail _ hstep ih => exact .tail ih hstep.ruleless

/-- A step of an evaluation that does not keep the objects is one of an evaluation that does. -/
theorem Step.exists_of_ruleless (explain : Bool) {u : Task}
    (h : Step stoppable document false t.ruleless n u) :
    ∃ t', Step stoppable document explain t n t' ∧ t'.ruleless = u := by
  generalize hplain : t.ruleless = plain at h
  induction h generalizing t with
  | test c =>
    cases t with
    | waiting r => cases hplain; exact ⟨_, .test c, rfl⟩
    | _ => cases hplain
  | stop connective children hstop =>
    cases t with
    | waiting r =>
      cases hplain
      refine ⟨_, .stop connective children hstop, ?_⟩
      rw [Task.ruleless, Rule.ruleless_skip]
    | _ => cases hplain
  | enter connective children =>
    cases t with
    | waiting r =>
      cases hplain
      refine ⟨_, .enter connective children, ?_⟩
      rw [Task.ruleless, rulelessAll_map_waiting]
    | _ => cases hplain
  | child connective before after _ ih =>
    cases t with
    | entered outer tasks =>
      rw [Task.ruleless, rulelessAll_eq_map, Task.entered.injEq] at hplain
      obtain ⟨rfl, htasks⟩ := hplain
      obtain ⟨fulls, others, rfl, rfl, hothers⟩ := List.map_eq_append_iff.1 htasks
      obtain ⟨full, rest, rfl, hfull, rfl⟩ := List.map_eq_cons_iff.1 hothers
      obtain ⟨full', hstep, rfl⟩ := ih hfull
      refine ⟨_, .child outer fulls rest hstep, ?_⟩
      simp only [Task.ruleless, rulelessAll_eq_map, List.map_append, List.map_cons]
    | _ => cases hplain
  | close connective outcomes =>
    cases t with
    | entered outer tasks =>
      rw [Task.ruleless, Task.entered.injEq] at hplain
      obtain ⟨rfl, htasks⟩ := hplain
      obtain ⟨fulls, rfl, rfl⟩ := ended_of_rulelessAll htasks
      refine ⟨_, .close outer fulls, ?_⟩
      rw [Task.ruleless, Outcome.ruleless, Outcome.map_valid_rulelessAll]
    | _ => cases hplain

theorem Steps.exists_of_ruleless (explain : Bool) {u : Task}
    (h : Steps stoppable document false t.ruleless n u) :
    ∃ t', Steps stoppable document explain t n t' ∧ t'.ruleless = u := by
  induction h with
  | refl => exact ⟨t, .refl, rfl⟩
  | tail _ hstep ih =>
    obtain ⟨t', hsteps, rfl⟩ := ih
    obtain ⟨t'', hlast, rfl⟩ := hstep.exists_of_ruleless explain
    exact ⟨t'', .tail hsteps hlast, rfl⟩

/-- The outcomes that an evaluation may end in, in whatever order it takes the children of groups,
are the same but for the objects of the rule document. -/
theorem steps_false_iff {r : Rule} {o : Outcome} (explain : Bool) :
    Steps stoppable document false (waiting r) n (ended o) ↔
      ∃ full, Steps stoppable document explain (waiting r) n (ended full) ∧ full.ruleless = o := by
  constructor
  · intro h
    have hplain : (waiting r).ruleless = waiting r := rfl
    rw [← hplain] at h
    obtain ⟨t', hsteps, ht'⟩ := h.exists_of_ruleless explain
    cases t' with
    | ended full =>
      cases ht'
      exact ⟨full, hsteps, rfl⟩
    | _ => cases ht'
  · rintro ⟨full, hsteps, rfl⟩
    exact hsteps.ruleless

end Steps

end Task

end JsonRules
