import JsonRules.Proofs.Outcome.Place

namespace JsonRules

namespace Event

def group? : Event → Option (List Nat)
  | asked place _ => some place
  | tested _ => none

def answer? : Event → Option Bool
  | asked _ stop => some stop
  | tested _ => none

theorem mem_filterMap_group?_iff {events : List Event} {place : List Nat} :
    place ∈ events.filterMap group? ↔ ∃ stop, asked place stop ∈ events := by
  rw [List.mem_filterMap]
  constructor
  · rintro ⟨e, he, hplace⟩
    cases e with
    | asked place' stop =>
      cases hplace
      exact ⟨stop, he⟩
    | tested place' => cases hplace
  · rintro ⟨stop, hasked⟩
    exact ⟨_, hasked, rfl⟩

theorem filterMap_group?_map_under (i : Nat) (events : List Event) :
    (events.map (under [i])).filterMap group? = (events.filterMap group?).map (i :: ·) := by
  rw [List.filterMap_map, List.map_filterMap]
  congr 1
  funext e
  cases e <;> rfl

end Event

section Watches

variable {σ : Type} (watch : Watch σ)

/-- The same watch, which writes down what it answers. -/
def Watch.logged : Watch (σ × List Bool) where
  stops s := ((watch.stops s.1).1, (watch.stops s.1).2, s.2 ++ [(watch.stops s.1).1])
  cancel name s := (watch.cancel name s.1, s.2)

/-- A watch that has told to stop tells so again, whatever else is cancelled. -/
structure Watch.Latches : Prop where
  stops : ∀ s, (watch.stops s).1 = true → (watch.stops (watch.stops s).2).1 = true
  cancel : ∀ s name, (watch.stops s).1 = true → (watch.stops (watch.cancel name s)).1 = true

/-- No flag is ever taken down. -/
theorem Tokens.latches_watch (token : Option Token) : (Tokens.watch token).Latches where
  stops _ h := h
  cancel t name h := by
    cases token with
    | none => cases h
    | some token =>
      simp only [Tokens.watch, Option.any_some, Tokens.isCancelled, Bool.or_eq_true] at h ⊢
      refine h.imp id fun hraised => ?_
      rw [Tokens.cancel]
      split
      · exact List.contains_iff_mem.2 (List.mem_cons_of_mem _ (List.contains_iff_mem.1 hraised))
      · exact hraised

end Watches

namespace Rule

section Order

variable {σ : Type} (watch : Watch σ) (document : Json)

/-- The order of the document is the lexicographic order of places, so groups ask in this order, and
none asks twice. -/
theorem pairwise_group?_events (r : Rule) (s : σ) :
    ((events watch document [] r s).1.filterMap Event.group?).Pairwise (· < ·) := by
  induction r generalizing s with
  | check c => exact .nil
  | group connective children ih =>
    have hchildren (j : Nat) (rules : List Rule) (hsub : ∀ r ∈ rules, r ∈ children) (t : σ) :
        ((eventsOf watch document [] j rules t).1.filterMap Event.group?).Pairwise (· < ·) := by
      induction rules generalizing j t with
      | nil => exact .nil
      | cons r rest ihrest =>
        rw [List.forall_mem_cons] at hsub
        rw [eventsOf_cons watch document false, List.filterMap_append,
          Event.filterMap_group?_map_under]
        refine List.pairwise_append.2 ⟨?_, ihrest (j + 1) hsub.2 _, ?_⟩
        · refine List.pairwise_map.2 ((ih r hsub.1 t).imp fun hlt => ?_)
          exact List.cons_lt_cons_iff.2 (.inr ⟨rfl, hlt⟩)
        · -- what is asked in later children has a greater number in front
          intro place hplace later hlater
          obtain ⟨below, -, rfl⟩ := List.mem_map.1 hplace
          obtain ⟨stop, hstop⟩ := Event.mem_filterMap_group?_iff.1 hlater
          obtain ⟨i, e, hle, -, heq⟩ := exists_under_of_mem_eventsOf watch document hstop
          obtain ⟨place, rfl, -⟩ := Event.asked_eq_under_iff.1 heq
          exact List.cons_lt_cons_iff.2 (.inl (by omega))
    rcases hstops : watch.stops s with ⟨_ | _, t⟩
    · rw [events_entered hstops]
      refine List.pairwise_cons.2 ⟨fun place hplace => ?_, hchildren 0 children (fun _ => id) t⟩
      obtain ⟨stop, hstop⟩ := Event.mem_filterMap_group?_iff.1 hplace
      obtain ⟨i, e, -, -, heq⟩ := exists_under_of_mem_eventsOf watch document hstop
      obtain ⟨below, rfl, -⟩ := Event.asked_eq_under_iff.1 heq
      exact List.nil_lt_cons i below
    · rw [events_stopped hstops]
      exact List.pairwise_singleton _ _

end Order

section Log

variable {σ : Type} (watch : Watch σ) (document : Json) (explain : Bool)

theorem foldl_cancel_logged (names : List String) (s : σ) (log : List Bool) :
    names.foldl (fun s name => watch.logged.cancel name s) (s, log) =
      (names.foldl (fun s name => watch.cancel name s) s, log) := by
  induction names generalizing s with
  | nil => rfl
  | cons name rest ih => exact ih (watch.cancel name s)

mutual

/-- What a run asks is what its events say, in their order. -/
theorem run_logged (place : List Nat) (r : Rule) (s : σ) (log : List Bool) :
    run watch.logged document explain r (s, log) =
      ((run watch document explain r s).1, (run watch document explain r s).2,
        log ++ (events watch document place r s).1.filterMap Event.answer?) := by
  cases r with
  | check c =>
    have hlog : [Event.tested place].filterMap Event.answer? = [] := rfl
    rw [run, run, events, foldl_cancel_logged, hlog, List.append_nil]
  | group connective children =>
    rcases hstops : watch.stops s with ⟨stop, t⟩
    have hlogged : watch.logged.stops (s, log) = (stop, t, log ++ [stop]) := by
      simp only [Watch.logged, hstops]
    cases stop with
    | false =>
      rw [run_entered hlogged, run_entered hstops, events_entered hstops,
        runAll_logged place 0 children t (log ++ [false]), List.append_assoc]
      rfl
    | true =>
      rw [run_stopped hlogged, run_stopped hstops, events_stopped hstops]
      rfl

theorem runAll_logged (place : List Nat) (i : Nat) (rules : List Rule) (s : σ) (log : List Bool) :
    runAll watch.logged document explain rules (s, log) =
      ((runAll watch document explain rules s).1, (runAll watch document explain rules s).2,
        log ++ (eventsOf watch document place i rules s).1.filterMap Event.answer?) := by
  cases rules with
  | nil => simp [runAll, eventsOf]
  | cons r rest =>
    simp only [runAll, eventsOf, run_logged (place ++ [i]) r s log,
      snd_events watch document explain, runAll_logged place (i + 1) rest, List.filterMap_append,
      List.append_assoc]

end

end Log

section Latch

variable {σ : Type} {watch : Watch σ}

/-- Answers that were given between two states of a world by a watch that latches. -/
structure Latched (watch : Watch σ) (answers : List Bool) (s t : σ) : Prop where
  stays : (watch.stops s).1 = true → (watch.stops t).1 = true
  stopped : (watch.stops s).1 = true → ∀ stop ∈ answers, stop = true
  latch : true ∈ answers → (watch.stops t).1 = true
  sorted : answers.Pairwise (· ≤ ·)

theorem Latched.refl (s : σ) : Latched watch [] s s := ⟨id, by simp, by simp, .nil⟩

theorem Latched.append {first others : List Bool} {s t u : σ} (h : Latched watch first s t)
    (h' : Latched watch others t u) : Latched watch (first ++ others) s u where
  stays hs := h'.stays (h.stays hs)
  stopped hs stop hstop := by
    obtain hfirst | hothers := List.mem_append.1 hstop
    · exact h.stopped hs stop hfirst
    · exact h'.stopped (h.stays hs) stop hothers
  latch htrue := by
    obtain hfirst | hothers := List.mem_append.1 htrue
    · exact h'.stays (h.latch hfirst)
    · exact h'.latch hothers
  sorted := by
    refine List.pairwise_append.2 ⟨h.sorted, h'.sorted, fun a ha b hb => ?_⟩
    cases a with
    | false => exact Bool.false_le b
    | true =>
      obtain rfl := h'.stopped (h.latch ha) b hb
      exact Bool.le_refl true

theorem latched_foldl_cancel (hlatches : watch.Latches) (names : List String) (s : σ) :
    Latched watch [] s (names.foldl (fun s name => watch.cancel name s) s) := by
  induction names generalizing s with
  | nil => exact .refl s
  | cons name rest ih =>
    have hfirst : Latched watch [] s (watch.cancel name s) :=
      ⟨hlatches.cancel s name, by simp, by simp, .nil⟩
    exact hfirst.append (ih (watch.cancel name s))

theorem latched_stops (hlatches : watch.Latches) (s : σ) :
    Latched watch [(watch.stops s).1] s (watch.stops s).2 where
  stays := hlatches.stops s
  stopped hs stop hstop := by rw [List.mem_singleton.1 hstop, hs]
  latch htrue := hlatches.stops s (List.mem_singleton.1 htrue).symm
  sorted := List.pairwise_singleton _ _

variable (document : Json) (explain : Bool)

mutual

/-- What a run is told is to go on, up to a point, and to stop from there on. -/
theorem latched_run (hlatches : watch.Latches) (place : List Nat) (r : Rule) (s : σ) :
    Latched watch ((events watch document place r s).1.filterMap Event.answer?) s
      (run watch document explain r s).2 := by
  cases r with
  | check c => exact latched_foldl_cancel hlatches _ s
  | group connective children =>
    have hasked := latched_stops hlatches s
    rcases hstops : watch.stops s with ⟨_ | _, t⟩
    · rw [hstops] at hasked
      rw [events_entered hstops, run_entered hstops]
      exact hasked.append (latched_runAll hlatches place 0 children t)
    · rw [hstops] at hasked
      rw [events_stopped hstops, run_stopped hstops]
      exact hasked

theorem latched_runAll (hlatches : watch.Latches) (place : List Nat) (i : Nat) (rules : List Rule)
    (s : σ) :
    Latched watch ((eventsOf watch document place i rules s).1.filterMap Event.answer?) s
      (runAll watch document explain rules s).2 := by
  cases rules with
  | nil => exact .refl s
  | cons r rest =>
    simp only [eventsOf, runAll, List.filterMap_append, snd_events watch document explain]
    exact (latched_run hlatches (place ++ [i]) r s).append
      (latched_runAll hlatches place (i + 1) rest _)

end

end Latch

end Rule

end JsonRules
