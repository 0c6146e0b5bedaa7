import JsonRules.Proofs.Outcome.Trace

namespace JsonRules

/-- The same event, seen from a rule that has this one at place `base`. -/
def Event.under (base : List Nat) : Event → Event
  | asked place stop => asked (base ++ place) stop
  | tested place => tested (base ++ place)

theorem Event.under_append (first second : List Nat) (e : Event) :
    e.under (first ++ second) = (e.under second).under first := by
  cases e with
  | asked place stop => exact congrArg (asked · stop) (List.append_assoc first second place)
  | tested place => exact congrArg tested (List.append_assoc first second place)

theorem Event.under_singleton_inj {i j : Nat} {e e' : Event} :
    e.under [i] = e'.under [j] ↔ i = j ∧ e = e' := by
  cases e <;> cases e' <;> simp [under, and_assoc]

theorem Event.asked_eq_under_iff {base place : List Nat} {stop : Bool} {e : Event} :
    asked place stop = e.under base ↔ ∃ below, place = base ++ below ∧ e = asked below stop := by
  cases e with
  | asked below stop' => simp [under, eq_comm]
  | tested below => simp [under]

def Outcome.at? : List Nat → Outcome → Option Outcome
  | [], o => some o
  | _ :: _, check _ => none
  | i :: rest, group _ _ children => children[i]?.bind (at? rest)

namespace Rule

def at? : List Nat → Rule → Option Rule
  | [], r => some r
  | _ :: _, check _ => none
  | i :: rest, group _ children => children[i]?.bind (at? rest)

section Parts

variable {connective : Connective} {i : Nat}

theorem at?_cons {children : List Rule} {r : Rule} (h : children[i]? = some r) (place : List Nat) :
    (group connective children).at? (i :: place) = r.at? place := by
  rw [at?, h, Option.bind_some]

theorem outcome_at?_cons {valid : Bool} {outcomes : List Outcome} {o : Outcome}
    (h : outcomes[i]? = some o) (place : List Nat) :
    (Outcome.group connective valid outcomes).at? (i :: place) = o.at? place := by
  rw [Outcome.at?, h, Option.bind_some]

theorem exists_child_of_at? {children : List Rule} {place : List Nat} {part : Rule}
    (h : (group connective children).at? (i :: place) = some part) :
    ∃ r, children[i]? = some r ∧ r.at? place = some part :=
  Option.bind_eq_some_iff.1 h

variable (document : Json) (explain : Bool)

theorem at?_skip (place : List Nat) (r : Rule) :
    (skip explain r).at? place = (r.at? place).map (skip explain) := by
  induction place generalizing r with
  | nil => rfl
  | cons i rest ih =>
    cases r with
    | check c => rfl
    | group connective children =>
      rw [skip, Outcome.at?, at?, skipAll_eq_map, List.getElem?_map]
      cases children[i]? with
      | none => rfl
      | some child => exact ih child

theorem at?_evaluate (place : List Nat) (r : Rule) :
    (evaluate document explain r).at? place = (r.at? place).map (evaluate document explain) := by
  induction place generalizing r with
  | nil => rfl
  | cons i rest ih =>
    cases r with
    | check c => rfl
    | group connective children =>
      rw [evaluate, Outcome.at?, at?, evaluateAll_eq_map, List.getElem?_map]
      cases children[i]? with
      | none => rfl
      | some child => exact ih child

theorem valid_skip (r : Rule) : (skip explain r).valid = false := by
  cases r <;> rfl

end Parts

/-- What happens in an evaluation, in whatever order, and the outcome that it has. Nothing happens
in a group that is told to stop; in a group that is told to go on each child is evaluated. -/
inductive Traces (document : Json) (explain : Bool) : Rule → Outcome → (Event → Prop) → Prop
  | check (c : Check) {happens : Event → Prop} :
      (∀ e, happens e ↔ e = .tested []) →
        Traces document explain (.check c)
          (.check (c.outcome explain (c.passes document) true)) happens
  | stopped (connective : Connective) (children : List Rule) {happens : Event → Prop} :
      (∀ e, happens e ↔ e = .asked [] true) →
        Traces document explain (.group connective children)
          (skip explain (.group connective children)) happens
  | entered (connective : Connective) {children : List Rule} {outcomes : List Outcome}
      {happens : Event → Prop} :
      happens (.asked [] false) →
      (∀ e, happens e → e = .asked [] false ∨
        ∃ i e', i < children.length ∧ e = Event.under [i] e') →
      children.length = outcomes.length →
      (∀ i r o, children[i]? = some r → outcomes[i]? = some o →
        Traces document explain r o fun e => happens (e.under [i])) →
        Traces document explain (.group connective children)
          (.group connective (connective.combine (outcomes.map Outcome.valid)) outcomes) happens

section Runs

variable {σ : Type} (watch : Watch σ) (document : Json)

mutual

/-- The events of a rule do not depend on where it stands, but for their places. -/
theorem events_under (base place : List Nat) (r : Rule) (s : σ) :
    (events watch document (base ++ place) r s).1 =
      (events watch document place r s).1.map (Event.under base) := by
  cases r with
  | check c => rfl
  | group connective children =>
    rcases hstops : watch.stops s with ⟨_ | _, t⟩
    · rw [events_entered hstops, events_entered hstops, List.map_cons,
        eventsOf_under base place 0 children t]
      rfl
    · rw [events_stopped hstops, events_stopped hstops]
      rfl

theorem eventsOf_under (base place : List Nat) (i : Nat) (rules : List Rule) (s : σ) :
    (eventsOf watch document (base ++ place) i rules s).1 =
      (eventsOf watch document place i rules s).1.map (Event.under base) := by
  cases rules with
  | nil => rfl
  | cons r rest =>
    simp only [eventsOf, List.map_append]
    rw [List.append_assoc, events_under base (place ++ [i]) r s,
      snd_events watch document false, snd_events watch document false (place ++ [i]),
      eventsOf_under base place (i + 1) rest]

end

variable (explain : Bool)

theorem eventsOf_cons (j : Nat) (r : Rule) (rest : List Rule) (s : σ) :
    (eventsOf watch document [] j (r :: rest) s).1 =
      (events watch document [] r s).1.map (Event.under [j]) ++
        (eventsOf watch document [] (j + 1) rest (run watch document explain r s).2).1 := by
  have hfirst := events_under watch document [j] [] r s
  rw [List.append_nil] at hfirst
  simp only [eventsOf, List.nil_append]
  rw [hfirst, snd_events watch document explain]

/-- All that happens among the children of a group happens in one of them. -/
theorem exists_under_of_mem_eventsOf {j : Nat} {rules : List Rule} {s : σ} {e : Event}
    (h : e ∈ (eventsOf watch document [] j rules s).1) :
    ∃ i e', j ≤ i ∧ i < j + rules.length ∧ e = Event.under [i] e' := by
  induction rules generalizing j s with
  | nil => cases h
  | cons r rest ih =>
    rw [eventsOf_cons watch document false] at h
    rw [List.length_cons]
    obtain h | h := List.mem_append.1 h
    · obtain ⟨e', -, rfl⟩ := List.mem_map.1 h
      exact ⟨j, e', Nat.le_refl j, by omega, rfl⟩
    · obtain ⟨i, e', hle, hlt, heq⟩ := ih h
      exact ⟨i, e', by omega, by omega, heq⟩

/-- Each child of a group is run in some state of the world, and what happens in it is what happens
at its places. -/
theorem exists_run_child {rules : List Rule} {i : Nat} {r : Rule} (h : rules[i]? = some r)
    (j : Nat) (s : σ) :
    ∃ u, (runAll watch document explain rules s).1[i]? = some (run watch document explain r u).1 ∧
      ∀ e, Event.under [j + i] e ∈ (eventsOf watch document [] j rules s).1 ↔
        e ∈ (events watch document [] r u).1 := by
  induction rules generalizing i j s with
  | nil => cases h
  | cons first rest ih =>
    simp only [runAll, eventsOf_cons watch document explain, List.mem_append, List.mem_map]
    cases i with
    | zero =>
      cases h
      refine ⟨s, rfl, fun e => ⟨?_, fun he => .inl ⟨e, he, rfl⟩⟩⟩
      rintro (⟨e', he', heq⟩ | hlater)
      · rwa [← (Event.under_singleton_inj.1 heq).2]
      · obtain ⟨k, e', hle, -, heq⟩ := exists_under_of_mem_eventsOf watch document hlater
        have hk := (Event.under_singleton_inj.1 heq).1
        omega
    | succ i =>
      obtain ⟨u, hrun, hevents⟩ := ih h (j + 1) (run watch document explain first s).2
      refine ⟨u, hrun, fun e => ?_⟩
      rw [← hevents, Nat.add_right_comm, Nat.add_assoc]
      refine ⟨?_, .inr⟩
      rintro (⟨e', -, heq⟩ | hlater)
      · have hj := (Event.under_singleton_inj.1 heq).1
        omega
      · exact hlater

theorem length_runAll (rules : List Rule) (s : σ) :
    (runAll watch document explain rules s).1.length = rules.length := by
  rw [(yields_runAll document explain watch rules s).length_eq]

/-- What happens in a run, however the watch answers. -/
theorem traces_run (r : Rule) (s : σ) :
    Traces document explain r (run watch document explain r s).1
      (· ∈ (events watch document [] r s).1) := by
  induction r generalizing s with
  | check c => exact .check c fun e => List.mem_singleton
  | group connective children ih =>
    rcases hstops : watch.stops s with ⟨_ | _, t⟩
    · rw [run_entered hstops, events_entered hstops]
      refine .entered connective List.mem_cons_self ?_ (length_runAll ..).symm ?_
      · intro e he
        obtain rfl | he := List.mem_cons.1 he
        · exact .inl rfl
        · obtain ⟨i, e', -, hlt, heq⟩ := exists_under_of_mem_eventsOf watch document he
          rw [Nat.zero_add] at hlt
          exact .inr ⟨i, e', hlt, heq⟩
      · intro i r o hr ho
        obtain ⟨u, hrun, hevents⟩ := exists_run_child watch document explain hr 0 t
        have ho' : o = (run watch document explain r u).1 := Option.some.inj (ho.symm.trans hrun)
        have hsame : (fun e => Event.under [i] e ∈ Event.asked [] false ::
            (eventsOf watch document [] 0 children t).1) =
            (· ∈ (events watch document [] r u).1) := by
          funext e
          rw [← hevents e, Nat.zero_add, List.mem_cons]
          cases e <;> simp [Event.under]
        rw [ho', hsame]
        exact ih r (List.mem_of_getElem? hr) u
    · rw [run_stopped hstops, events_stopped hstops]
      exact .stopped connective children fun e => List.mem_singleton

end Runs

section Parallel

variable {document : Json} {explain : Bool} {r : Rule} {o : Outcome}

/-- However an outcome came about, the groups can have been told what it takes. -/
theorem Yields.exists_traces (h : Yields document explain r o) :
    ∃ happens, Traces document explain r o happens := by
  induction h using Yields.induction with
  | check c => exact ⟨_, .check c fun e => Iff.rfl⟩
  | skipped connective children => exact ⟨_, .stopped connective children fun e => Iff.rfl⟩
  | @entered connective children outcomes houtcomes ih =>
    have hchild (i : Nat) : ∃ happens, ∀ r o, children[i]? = some r → outcomes[i]? = some o →
        Traces document explain r o happens := by
      by_cases hi : i < children.length
      · have hi' : i < outcomes.length := houtcomes.length_eq ▸ hi
        obtain ⟨-, happens, htraces⟩ := (List.forall₂_iff_get.1 ih).2 i hi hi'
        refine ⟨happens, fun r o hr ho => ?_⟩
        rw [List.getElem?_eq_getElem hi] at hr
        rw [List.getElem?_eq_getElem hi'] at ho
        cases hr
        cases ho
        exact htraces
      · refine ⟨fun _ => False, fun r o hr => ?_⟩
        rw [List.getElem?_eq_none (Nat.le_of_not_lt hi)] at hr
        cases hr
    choose happens hhappens using hchild
    -- the group was told to go on, and in each child there happened what was chosen for it
    let all : Event → Prop := fun e => e = .asked [] false ∨
      ∃ i e', i < children.length ∧ e = Event.under [i] e' ∧ happens i e'
    refine ⟨all, .entered connective (.inl rfl) ?_ houtcomes.length_eq ?_⟩
    · rintro e (rfl | ⟨i, e', hi, heq, -⟩)
      · exact .inl rfl
      · exact .inr ⟨i, e', hi, heq⟩
    · intro i r o hr ho
      have hi : i < children.length := (List.getElem?_eq_some_iff.1 hr).1
      have hsame : (fun e => all (Event.under [i] e)) = happens i := by
        funext e
        apply propext
        constructor
        · rintro (heq | ⟨j, e', -, heq, he'⟩)
          · cases e <;> cases heq
          · obtain ⟨rfl, rfl⟩ := Event.under_singleton_inj.1 heq
            exact he'
        · intro he
          exact .inr ⟨i, e, hi, rfl, he⟩
      rw [hsame]
      exact hhappens i r o hr ho

end Parallel

end Rule

end JsonRules
