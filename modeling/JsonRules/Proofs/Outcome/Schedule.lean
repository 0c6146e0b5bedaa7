import JsonRules.Proofs.Outcome.Run

namespace JsonRules

/-- How far the evaluation of a rule has come. -/
inductive Task where
  | waiting (r : Rule)
  | entered (connective : Connective) (children : List Task)
  | ended (o : Outcome)

namespace Task

mutual

def testedCount : Task → Nat
  | waiting _ => 0
  | entered _ children => testedCountOf children
  | ended o => o.checks.countP (·.evaluated)

def testedCountOf : List Task → Nat
  | [] => 0
  | t :: rest => testedCount t + testedCountOf rest

end

theorem testedCountOf_append (before after : List Task) :
    testedCountOf (before ++ after) = testedCountOf before + testedCountOf after := by
  induction before with
  | nil => rw [List.nil_append, testedCountOf, Nat.zero_add]
  | cons t rest ih => rw [List.cons_append, testedCountOf, testedCountOf, ih, Nat.add_assoc]

theorem testedCountOf_map_waiting (rules : List Rule) :
    testedCountOf (rules.map waiting) = 0 := by
  induction rules with
  | nil => rfl
  | cons r rest ih => rw [List.map_cons, testedCountOf, testedCount, ih]

theorem testedCountOf_map_ended (outcomes : List Outcome) :
    testedCountOf (outcomes.map ended) =
      (Outcome.checksOf outcomes).countP (·.evaluated) := by
  induction outcomes with
  | nil => rfl
  | cons o rest ih =>
    rw [List.map_cons, testedCountOf, testedCount, ih, Outcome.checksOf, List.countP_append]

/-- A step of an evaluation that may be parallel, with the number of tests that are run in it. The
children of a group that was entered go on in any order, and a group that asks whether to stop may
be told so at any time, provided that there is someone to tell it. -/
inductive Step (stoppable : Bool) (document : Json) (explain : Bool) : Task → Nat → Task → Prop
  | test (c : Check) :
      Step stoppable document explain (waiting (.check c)) 1
        (ended (.check (c.outcome explain (c.passes document) true)))
  | stop (connective : Connective) (children : List Rule) : stoppable = true →
      Step stoppable document explain (waiting (.group connective children)) 0
        (ended (Rule.skip explain (.group connective children)))
  | enter (connective : Connective) (children : List Rule) :
      Step stoppable document explain (waiting (.group connective children)) 0
        (entered connective (children.map waiting))
  | child {t t' : Task} {n : Nat} (connective : Connective) (before after : List Task) :
      Step stoppable document explain t n t' →
        Step stoppable document explain (entered connective (before ++ t :: after)) n
          (entered connective (before ++ t' :: after))
  | close (connective : Connective) (outcomes : List Outcome) :
      Step stoppable document explain (entered connective (outcomes.map ended)) 0
        (ended (.group connective (connective.combine (outcomes.map Outcome.valid)) outcomes))

inductive Steps (stoppable : Bool) (document : Json) (explain : Bool) : Task → Nat → Task → Prop
  | refl {t : Task} : Steps stoppable document explain t 0 t
  | tail {t t' t'' : Task} {n m : Nat} :
      Steps stoppable document explain t n t' → Step stoppable document explain t' m t'' →
        Steps stoppable document explain t (n + m) t''

section Count

variable {stoppable : Bool} {document : Json} {explain : Bool} {t t' : Task} {n : Nat}

theorem Step.testedCount_eq (h : Step stoppable document explain t n t') :
    t'.testedCount = t.testedCount + n := by
  induction h with
  | test c => rfl
  | stop connective children _ =>
    rw [testedCount, testedCount, Rule.countP_evaluated_skip]
  | enter connective children =>
    rw [testedCount, testedCount, testedCountOf_map_waiting]
  | child connective before after _ ih =>
    simp only [testedCount, testedCountOf_append, testedCountOf, ih]
    omega
  | close connective outcomes =>
    rw [testedCount, testedCount, testedCountOf_map_ended]
    rfl

theorem Steps.testedCount_eq (h : Steps stoppable document explain t n t') :
    t'.testedCount = t.testedCount + n := by
  induction h with
  | refl => rfl
  | tail _ hstep ih => rw [hstep.testedCount_eq, ih, Nat.add_assoc]

end Count

/-- A relation between rules and outcomes that no step of an evaluation leaves. -/
structure Kept (stoppable : Bool) (document : Json) (explain : Bool)
    (P : Rule → Outcome → Prop) : Prop where
  check (c : Check) : P (.check c) (.check (c.outcome explain (c.passes document) true))
  skip (connective : Connective) (children : List Rule) : stoppable = true →
    P (.group connective children) (Rule.skip explain (.group connective children))
  group (connective : Connective) {children : List Rule} {outcomes : List Outcome} :
    List.Forall₂ P children outcomes →
      P (.group connective children)
        (.group connective (connective.combine (outcomes.map Outcome.valid)) outcomes)

/-- A task that came from a rule, in which all that has ended is in the relation. -/
inductive Of (P : Rule → Outcome → Prop) : Rule → Task → Prop
  | waiting (r : Rule) : Of P r (waiting r)
  | entered {connective : Connective} {children : List Rule} {tasks : List Task} :
      List.Forall₂ (Of P) children tasks →
        Of P (.group connective children) (entered connective tasks)
  | ended {r : Rule} {o : Outcome} : P r o → Of P r (ended o)

section Invariant

variable {stoppable : Bool} {document : Json} {explain : Bool} {P : Rule → Outcome → Prop}
  {t t' : Task} {n : Nat} {r : Rule} {o : Outcome}

theorem of_ended_iff : Of P r (ended o) ↔ P r o := by
  constructor
  · intro h
    cases h with
    | ended hP => exact hP
  · exact .ended

theorem forall₂_replace {children : List Rule} {before after : List Task}
    (h : List.Forall₂ (Of P) children (before ++ t :: after)) (ht : ∀ r, Of P r t → Of P r t') :
    List.Forall₂ (Of P) children (before ++ t' :: after) := by
  induction before generalizing children with
  | nil =>
    cases h with
    | cons hr hrest => exact .cons (ht _ hr) hrest
  | cons first before ih =>
    cases h with
    | cons hr hrest => exact .cons hr (ih hrest)

theorem Step.preserves (hP : Kept stoppable document explain P)
    (h : Step stoppable document explain t n t') : ∀ r, Of P r t → Of P r t' := by
  induction h with
  | test c =>
    intro r hr
    cases hr with
    | waiting => exact .ended (hP.check c)
  | stop connective children hstop =>
    intro r hr
    cases hr with
    | waiting => exact .ended (hP.skip connective children hstop)
  | enter connective children =>
    intro r hr
    cases hr with
    | waiting =>
      refine .entered (List.forall₂_map_right_iff.2 (List.forall₂_same.2 fun r _ => ?_))
      exact .waiting r
  | child connective before after _ ih =>
    -- the induction is for every rule, as the child came from another one than its group
    intro r hr
    cases hr with
    | entered hchildren => exact .entered (forall₂_replace hchildren ih)
  | close connective outcomes =>
    intro r hr
    cases hr with
    | entered hchildren =>
      rw [List.forall₂_map_right_iff] at hchildren
      exact .ended (hP.group connective (hchildren.imp fun _ _ => of_ended_iff.1))

theorem Steps.preserves (hP : Kept stoppable document explain P)
    (h : Steps stoppable document explain t n t') (hr : Of P r t) : Of P r t' := by
  induction h with
  | refl => exact hr
  | tail _ hstep ih => exact hstep.preserves hP r ih

/-- Whatever the order of the steps is, an evaluation that ends does so within the relation. -/
theorem Steps.kept (hP : Kept stoppable document explain P)
    (h : Steps stoppable document explain (waiting r) n (ended o)) : P r o :=
  of_ended_iff.1 (h.preserves hP (.waiting r))

/-- The number of the tests that were run can be read off the outcome. -/
theorem Steps.countP_evaluated
    (h : Steps stoppable document explain (waiting r) n (ended o)) :
    o.checks.countP (·.evaluated) = n := by
  have hcount := h.testedCount_eq
  rwa [testedCount, testedCount, Nat.zero_add] at hcount

theorem Steps.yields (h : Steps stoppable document explain (waiting r) n (ended o)) :
    r.Yields document explain o :=
  h.kept ⟨.check, fun connective children _ => .skipped connective children,
    fun _ _ _ houtcomes => .entered houtcomes⟩

/-- If nobody can tell the evaluation to stop, then the order of its steps makes no difference. -/
theorem Steps.eq_evaluate (h : Steps false document explain (waiting r) n (ended o)) :
    o = r.evaluate document explain := by
  refine h.kept (P := fun r o => o = r.evaluate document explain) ⟨fun _ => rfl, ?_, ?_⟩
  · -- nothing is ever left out
    intro _ _ hstop
    cases hstop
  · intro connective children outcomes houtcomes
    have hmap : outcomes = children.map (Rule.evaluate document explain) := by
      rw [← List.forall₂_eq_eq_eq, List.forall₂_map_right_iff]
      exact houtcomes.flip
    rw [Rule.evaluate, Rule.evaluateAll_eq_map, hmap]

end Invariant

section Sequence

variable {stoppable : Bool} {document : Json} {explain : Bool}

theorem Steps.trans {t t' t'' : Task} {n m : Nat} (h : Steps stoppable document explain t n t')
    (h' : Steps stoppable document explain t' m t'') :
    Steps stoppable document explain t (n + m) t'' := by
  induction h' with
  | refl => exact h
  | tail _ hstep ih =>
    rw [← Nat.add_assoc]
    exact .tail ih hstep

theorem Steps.child {t t' : Task} {n : Nat} (connective : Connective) (before after : List Task)
    (h : Steps stoppable document explain t n t') :
    Steps stoppable document explain (entered connective (before ++ t :: after)) n
      (entered connective (before ++ t' :: after)) := by
  induction h with
  | refl => exact .refl
  | tail _ hstep ih => exact .tail ih (.child connective before after hstep)

variable {σ : Type} (watch : Watch σ)

mutual

/-- The run that takes the children of every group in order is one of the ways. -/
theorem exists_steps_run (r : Rule) (s : σ) :
    ∃ n, Steps true document explain (waiting r) n
      (ended (r.run watch document explain s).1) := by
  cases r with
  | check c => exact ⟨_, .tail .refl (.test c)⟩
  | group connective children =>
    rcases hstops : watch.stops s with ⟨_ | _, u⟩
    · -- the group is entered, its children are run in order, and then it is closed
      rw [Rule.run_entered hstops]
      obtain ⟨n, hchildren⟩ := exists_steps_runAll connective [] children u
      have henter : Steps true document explain (waiting (.group connective children)) _ _ :=
        .tail .refl (.enter connective children)
      exact ⟨_, .tail (henter.trans hchildren) (.close connective _)⟩
    · rw [Rule.run_stopped hstops]
      exact ⟨_, .tail .refl (.stop connective children rfl)⟩

theorem exists_steps_runAll (connective : Connective) (before : List Outcome) (rules : List Rule)
    (s : σ) :
    ∃ n, Steps true document explain
      (entered connective (before.map ended ++ rules.map waiting)) n
      (entered connective
        ((before ++ (Rule.runAll watch document explain rules s).1).map ended)) := by
  cases rules with
  | nil =>
    rw [Rule.runAll, List.append_nil, List.map_nil, List.append_nil]
    exact ⟨0, .refl⟩
  | cons r rest =>
    obtain ⟨n, hfirst⟩ := exists_steps_run r s
    have hchild := hfirst.child connective (before.map ended) (rest.map waiting)
    obtain ⟨m, hrest⟩ := exists_steps_runAll connective
      (before ++ [(r.run watch document explain s).1]) rest (r.run watch document explain s).2
    rw [List.map_append, List.map_singleton, List.append_assoc, List.singleton_append,
      List.append_assoc before, List.singleton_append] at hrest
    exact ⟨n + m, hchild.trans hrest⟩

end

end Sequence

end Task

end JsonRules
