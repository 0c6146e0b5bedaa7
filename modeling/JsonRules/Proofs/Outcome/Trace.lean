import JsonRules.Proofs.Outcome.Run

namespace JsonRules

/-- What an evaluation does at a place of a rule; the place is given by the numbers of the children
on the way to it. -/
inductive Event where
  /-- A group asks whether to stop, and is told. -/
  | asked (place : List Nat) (stop : Bool)
  /-- The test of a check is run. -/
  | tested (place : List Nat)
deriving DecidableEq, Repr

def Event.isTested : Event → Bool
  | asked _ _ => false
  | tested _ => true

namespace Rule

section Events

variable {σ : Type}

mutual

/-- What the evaluation of a rule under a watch does, in order, and what becomes of the world. -/
def events (watch : Watch σ) (document : Json) (place : List Nat) : Rule → σ → List Event × σ
  | check c, s =>
    ([.tested place],
      (c.test.cancels (c.selector.locate document)).foldl (fun s name => watch.cancel name s) s)
  | group _ children, s =>
    match watch.stops s with
    | (true, s) => ([.asked place true], s)
    | (false, s) =>
      let (done, s) := eventsOf watch document place 0 children s
      (.asked place false :: done, s)

def eventsOf (watch : Watch σ) (document : Json) (place : List Nat) (i : Nat) :
    List Rule → σ → List Event × σ
  | [], s => ([], s)
  | r :: rest, s =>
    let (first, s) := events watch document (place ++ [i]) r s
    let (others, s) := eventsOf watch document place (i + 1) rest s
    (first ++ others, s)

end

def testedCount (watch : Watch σ) (document : Json) (r : Rule) (s : σ) : Nat :=
  (events watch document [] r s).1.countP Event.isTested

variable {watch : Watch σ} {document : Json} {s t : σ} {connective : Connective}
  {children : List Rule} {place : List Nat}

theorem events_stopped (h : watch.stops s = (true, t)) :
    events watch document place (.group connective children) s = ([.asked place true], t) := by
  rw [events, h]

theorem events_entered (h : watch.stops s = (false, t)) :
    events watch document place (.group connective children) s =
      (.asked place false :: (eventsOf watch document place 0 children t).1,
        (eventsOf watch document place 0 children t).2) := by
  rw [events, h]

variable (watch document) (explain : Bool)

mutual

/-- The events are those of the run: they leave the world as the run does. -/
theorem snd_events (place : List Nat) (r : Rule) (s : σ) :
    (events watch document place r s).2 = (run watch document explain r s).2 := by
  cases r with
  | check c => rfl
  | group connective children =>
    rcases hstops : watch.stops s with ⟨_ | _, t⟩
    · rw [events_entered hstops, run_entered hstops]
      exact snd_eventsOf place 0 children t
    · rw [events_stopped hstops, run_stopped hstops]

theorem snd_eventsOf (place : List Nat) (i : Nat) (rules : List Rule) (s : σ) :
    (eventsOf watch document place i rules s).2 = (runAll watch document explain rules s).2 := by
  cases rules with
  | nil => rfl
  | cons r rest =>
    simp only [eventsOf, runAll, snd_events (place ++ [i]) r s]
    exact snd_eventsOf place (i + 1) rest _

end

mutual

/-- As many checks are marked as evaluated as tests are run. -/
theorem countP_tested_events (place : List Nat) (r : Rule) (s : σ) :
    (events watch document place r s).1.countP Event.isTested =
      (run watch document explain r s).1.checks.countP (·.evaluated) := by
  cases r with
  | check c => rfl
  | group connective children =>
    rcases hstops : watch.stops s with ⟨_ | _, t⟩
    · rw [events_entered hstops, run_entered hstops]
      exact countP_tested_eventsOf place 0 children t
    · rw [events_stopped hstops, run_stopped hstops, countP_evaluated_skip]
      rfl

theorem countP_tested_eventsOf (place : List Nat) (i : Nat) (rules : List Rule) (s : σ) :
    (eventsOf watch document place i rules s).1.countP Event.isTested =
      (Outcome.checksOf (runAll watch document explain rules s).1).countP (·.evaluated) := by
  cases rules with
  | nil => rfl
  | cons r rest =>
    simp only [eventsOf, runAll, Outcome.checksOf, List.countP_append,
      snd_events watch document explain (place ++ [i]) r s]
    rw [countP_tested_events (place ++ [i]) r s, countP_tested_eventsOf place (i + 1) rest _]

end

theorem testedCount_eq (r : Rule) (s : σ) :
    r.testedCount watch document s =
      (r.run watch document explain s).1.checks.countP (·.evaluated) :=
  countP_tested_events watch document explain [] r s

theorem testedCount_le (r : Rule) (s : σ) : r.testedCount watch document s ≤ r.checkCount := by
  rw [testedCount_eq watch document false]
  exact (yields_run document false watch r s).countP_evaluated_le

end Events

end Rule

end JsonRules
