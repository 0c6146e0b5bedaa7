import JsonRules.Proofs.Profile.Requests

namespace JsonRules

inductive Plan.ReadsOnly {α : Type} : Plan α → Prop where
  | done (a : α) : ReadsOnly (.done a)
  | call {c : StoreCall} {next : Except StoreError c.Answer → Plan α}
      (hkind : c.kind = .has ∨ c.kind = .get) (hnext : ∀ answer, (next answer).ReadsOnly) :
      ReadsOnly (.call c next)

namespace Store

/-- The store from the moment that an outage begins, or that the last one is over. -/
def under (outage : Option Outage) (store : Store) : Store := { store with outage }

/-- Why nothing can be stored under a name at present. The store is asked whether the name is there,
and then it replaces or creates. -/
def putFailure? (store : Store) (id : String) : Option String :=
  (store.failure? .has).or (store.failure? (if (store.find? id).isSome then .update else .create))

/-- One store has a payload under a name; everything else is as it is in the other. -/
structure Replaces (id : String) (payload : Json) (before after : Store) : Prop where
  named : ∃ object, after.find? id = some object ∧ IsNamed id payload object
  others : Members.erase id after.objects.members = Members.erase id before.objects.members

section Calls

variable {store : Store} {c : StoreCall}

theorem perform_of_failure {reason : String} (h : store.failure? c.kind = some reason) :
    store.perform c = (.error (.unavailable reason), store) := by rw [perform, h]

theorem perform_of_works (h : store.failure? c.kind = none) : store.perform c = store.answer c := by
  rw [perform, h]

theorem perform_of_reads (h : c.kind = .has ∨ c.kind = .get) : (store.perform c).2 = store := by
  rcases hfailure : store.failure? c.kind with _ | reason
  · rw [perform_of_works hfailure]
    cases c with
    | has id => rfl
    | get id =>
      rw [answer]
      split <;> rfl
    | create id object => simp [StoreCall.kind] at h
    | update id object => simp [StoreCall.kind] at h
  · rw [perform_of_failure hfailure]

theorem replaces_put (store : Store) (id : String) (members : List (String × Json)) :
    Replaces id (.object members) store (store.put id (withoutId (.object members))) where
  named := ⟨_, (find?_put _ _ _ _).trans (if_pos rfl), isNamed_withId id members⟩
  others := Members.erase_insert

theorem Replaces.find?_of_ne {id other : String} {payload : Json} {before after : Store}
    (h : Replaces id payload before after) (hne : other ≠ id) :
    after.find? other = before.find? other := by
  have hothers := congrArg (List.lookup other) h.others
  rwa [Members.lookup_erase, Members.lookup_erase, if_neg hne, if_neg hne] at hothers

end Calls

end Store

theorem Plan.ReadsOnly.run_snd {α : Type} {plan : Plan α} (h : plan.ReadsOnly) (store : Store) :
    (plan.run store).2 = store := by
  induction h with
  | done a => rfl
  | call hkind hnext ih => rw [Plan.run, Store.perform_of_reads hkind, ih]

def Response.isError : Response → Bool
  | .document (.error _) => true
  | .report (.error _) => true
  | _ => false

def Request.isUpsert {σ : Type} : Request σ → Bool
  | .upsert _ _ => true
  | _ => false

def successes {σ : Type} (log : List (Request σ × Response)) : List (Request σ) :=
  (log.flatMap storedBy).map fun entry => .upsert entry.1 entry.2

namespace Service

variable {σ : Type}

/-- Serves requests one after the other. Between any two of them, calls of the store may begin to
fail or work again. -/
def serveThrough (s : Service) :
    List (Option Outage × Request σ) → Store × σ → List (Request σ × Response) × Store × σ
  | [], state => ([], state)
  | (outage, request) :: rest, state =>
    let (response, state) := s.serve request (state.1.under outage, state.2)
    let (log, state) := s.serveThrough rest state
    ((request, response) :: log, state)

section Plans

variable (s : Service) (id : String) (store : Store)

theorem readsOnly_get : (s.get id).ReadsOnly := by
  rw [get]
  split
  · exact .call (.inr rfl) fun answer => .done _
  · exact .done _

theorem readsOnly_rules : (s.rules id).ReadsOnly := by
  rw [rules]
  split
  · refine .call (.inr rfl) fun answer => ?_
    split
    · exact .done _
    · split <;> exact .done _
    · exact .done _
  · exact .done _

def putUnless (rules : Json) : Option String → Except ServiceError Json × Store
  | some reason => (.error (.unavailable reason), store)
  | none => (.ok (upsertAnswer id), store.put id rules)

theorem run_create (rules : Json) : (Plan.call (.create id rules) (changed id)).run store =
    putUnless id store rules (store.failure? .create) := by
  rw [Plan.run]
  rcases hfailure : store.failure? .create with _ | reason
  · rw [Store.perform_of_works hfailure]
    rfl
  · rw [Store.perform_of_failure hfailure]
    rfl

variable {store} in
theorem run_update (rules : Json) (h : (store.find? id).isSome = true) :
    (Plan.call (.update id rules) (changed id)).run store =
      putUnless id store rules (store.failure? .update) := by
  rw [Plan.run]
  rcases hfailure : store.failure? .update with _ | reason
  · rw [Store.perform_of_works hfailure, Store.answer, if_pos h]
    rfl
  · rw [Store.perform_of_failure hfailure]
    rfl

/-- Whichever calls fail, an upsert stores what it is to store or it fails and stores nothing. -/
theorem run_upsert_eq (payload : Json) : (s.upsert id payload).run store =
    match s.vet id payload with
    | .error e => (.error e, store)
    | .ok rules => putUnless id store rules (store.putFailure? id) := by
  rw [upsert, vet, Store.putFailure?]
  by_cases hid : s.accepts id = true
  · rw [if_pos hid, if_pos hid]
    rcases s.rulesOf payload with e | rules
    · rfl
    · dsimp only
      rw [Plan.run]
      rcases hhas : store.failure? .has with _ | reason
      · rw [Store.perform_of_works hhas, Store.answer, Option.none_or]
        -- only here does it matter whether the name is there
        rcases hfind : (store.find? id).isSome with _ | _
        · exact run_create id store rules
        · exact run_update id rules hfind
      · rw [Store.perform_of_failure hhas]
        rfl
  · rw [if_neg hid, if_neg hid]
    rfl

end Plans

section Requests

variable {s : Service} {state state' : Store × σ}

/-- A request stores what a payload says, which is an upsert that succeeds, or it leaves the store
as it is. -/
theorem serve_cases {request : Request σ} {response : Response}
    (h : s.serve request state = (response, state')) :
    (∃ id payload, request = .upsert id payload ∧ response = .document (.ok (upsertAnswer id)) ∧
      s.vet id payload = .ok (Store.withoutId payload) ∧
      state' = (state.1.put id (Store.withoutId payload), state.2)) ∨
    ((response.isError = true ∨ request.isUpsert = false) ∧ storedBy (request, response) = [] ∧
      state'.1 = state.1) := by
  obtain ⟨store, world⟩ := state
  cases request with
  | upsert id payload =>
    rw [serve, run_upsert_eq] at h
    rcases hvet : s.vet id payload with e | rules
    · rw [hvet] at h
      cases h
      exact .inr ⟨.inl rfl, rfl, rfl⟩
    · obtain ⟨-, -, rfl⟩ := vet_eq_ok_iff.1 hvet
      rw [hvet] at h
      rcases hfailure : store.putFailure? id with _ | reason
      · simp only [hfailure] at h
        cases h
        exact .inl ⟨id, payload, rfl, rfl, hvet, rfl⟩
      · simp only [hfailure] at h
        cases h
        exact .inr ⟨.inl rfl, rfl, rfl⟩
  | get id =>
    rw [serve] at h
    cases h
    exact .inr ⟨.inr rfl, rfl, (readsOnly_get s id).run_snd store⟩
  | validate watch id target explain =>
    rw [serve] at h
    cases h
    exact .inr ⟨.inr rfl, rfl, (readsOnly_rules s id).run_snd store⟩
  | inline watch rules target explain =>
    rw [serve] at h
    cases h
    exact .inr ⟨.inr rfl, rfl, rfl⟩
  | texts watch target rules explain =>
    rw [serve] at h
    cases h
    exact .inr ⟨.inr rfl, rfl, rfl⟩

theorem serveThrough_cons {outage : Option Outage} {request : Request σ}
    {rest : List (Option Outage × Request σ)} {log : List (Request σ × Response)}
    (h : s.serveThrough ((outage, request) :: rest) state = (log, state')) :
    ∃ response next others,
      s.serve request (state.1.under outage, state.2) = (response, next) ∧
        s.serveThrough rest next = (others, state') ∧ log = (request, response) :: others := by
  rcases hfirst : s.serve request (state.1.under outage, state.2) with ⟨response, next⟩
  rcases hrest : s.serveThrough rest next with ⟨others, last⟩
  rw [serveThrough, hfirst] at h
  simp only [hrest] at h
  cases h
  exact ⟨response, next, others, rfl, hrest, rfl⟩

theorem serveAll_append_snd (first second : List (Request σ)) (state : Store × σ) :
    (s.serveAll (first ++ second) state).2 =
      (s.serveAll second (s.serveAll first state).2).2 := by
  induction first generalizing state with
  | nil => rfl
  | cons request rest ih => exact ih (s.serve request state).2

theorem serveAll_successes_serve {request : Request σ} {response : Response}
    (h : s.serve request state = (response, state')) (start : σ) :
    (s.serveAll (successes [(request, response)]) (state.1.under none, start)).2 =
      (state'.1.under none, start) := by
  obtain ⟨id, payload, rfl, rfl, hvet, rfl⟩ | ⟨-, hstored, hstore⟩ := serve_cases h
  · change (s.serve (.upsert id payload) (state.1.under none, start)).2 = _
    rw [serve_upsert_of_vet rfl hvet]
    rfl
  · rw [successes, List.flatMap_singleton, hstored, hstore]
    rfl

/-- The upserts that succeeded leave by themselves what was stored by all requests. -/
theorem serveAll_successes {turns : List (Option Outage × Request σ)}
    {log : List (Request σ × Response)} (h : s.serveThrough turns state = (log, state'))
    (start : σ) :
    (s.serveAll (successes log) (state.1.under none, start)).2 = (state'.1.under none, start) := by
  induction turns generalizing state log with
  | nil =>
    cases h
    rfl
  | cons turn rest ih =>
    obtain ⟨outage, request⟩ := turn
    obtain ⟨response, next, others, hfirst, hrest, rfl⟩ := serveThrough_cons h
    have hsplit : successes ((request, response) :: others) =
        successes [(request, response)] ++ successes others := by simp [successes]
    have hnext := serveAll_successes_serve hfirst start
    rw [hsplit, serveAll_append_snd]
    exact (congrArg (fun state => (s.serveAll (successes others) state).2) hnext).trans (ih hrest)

/-- Whatever was requested of a service that began with an empty store, and whichever calls of the
store failed meanwhile: a request that fails or that is no upsert leaves all objects as they are,
and an upsert that succeeds replaces what is stored under its name. So the upserts that succeeded
would have led to the same objects without the other requests. -/
theorem serveThrough_stores_only_successes {turns : List (Option Outage × Request σ)} {start : σ}
    {log : List (Request σ × Response)}
    (h : s.serveThrough turns (.empty, start) = (log, state)) :
    (∀ outage request response after,
      s.serve request (state.1.under outage, state.2) = (response, after) →
      (response.isError = true ∨ request.isUpsert = false → after.1.objects = state.1.objects) ∧
      ∀ id payload, request = .upsert id payload → response.isError = false →
        Store.Replaces id payload state.1 after.1) ∧
    (s.serveAll (successes log) (.empty, start)).2 = (state.1.under none, start) := by
  refine ⟨?_, serveAll_successes h start⟩
  intro outage request response after hserve
  obtain ⟨id, payload, rfl, rfl, hvet, rfl⟩ | ⟨hfails, -, hstore⟩ := serve_cases hserve
  · refine ⟨fun hnot => by simp [Response.isError, Request.isUpsert] at hnot, ?_⟩
    rintro _ _ ⟨⟩ -
    obtain ⟨-, ⟨⟨members, rfl⟩, -⟩, -⟩ := vet_eq_ok_iff.1 hvet
    have hreplaces := Store.replaces_put (state.1.under outage) id members
    exact ⟨hreplaces.named, hreplaces.others⟩
  · refine ⟨fun _ => by rw [hstore]; rfl, ?_⟩
    rintro id payload rfl hok
    simp [hok, Request.isUpsert] at hfails

section People

/-- An outage in which a profile can be read and created, but none can be replaced. -/
def lockedOutage : Outage := ⟨[.update], "the object is locked"⟩

theorem serve_bareProfile_of_locked {s : Service} (hid : s.accepts "people" = true)
    {store : Store} (hfind : (store.find? "people").isSome = true) (world : Tokens) :
    s.serve (.upsert "people" bareProfile) (store.under lockedOutage, world) =
      (.document (.error (.unavailable "the object is locked")), store.under lockedOutage,
        world) := by
  have hthere : ((store.under lockedOutage).find? "people").isSome = true := hfind
  have hfailure : (store.under lockedOutage).putFailure? "people" =
      some "the object is locked" := by
    rw [Store.putFailure?, if_pos hthere]
    rfl
  rw [serve, run_upsert_eq, vet_bareProfile hid]
  simp only [hfailure, putUnless]

/-- A profile that is there stays as it is while none can be replaced, and then it is replaced. -/
theorem serve_bareProfile_lockedOutage : ∃ s log state locked unlocked,
    create {} .builtins = .ok s ∧
    s.serveThrough [(none, .upsert "people" strangerProfile)] (.empty, Tokens.empty) =
      (log, state) ∧
    s.serve (.upsert "people" bareProfile) (state.1.under lockedOutage, state.2) =
      (.document (.error (.unavailable "the object is locked")), locked) ∧
    locked.1.objects = state.1.objects ∧
    s.serve (.upsert "people" bareProfile) (state.1.under none, state.2) =
      (.document (.ok (upsertAnswer "people")), unlocked) ∧
    Store.Replaces "people" bareProfile state.1 unlocked.1 ∧
    unlocked.1.find? "staff" = state.1.find? "staff" := by
  obtain ⟨s, hcreate, hpeople, -, hregistry⟩ := exists_create_default
  let created := Store.empty.put "people" (RuleHead.checkDocument "absent" "$")
  have hfirst : s.serve (.upsert "people" strangerProfile) (Store.empty.under none, Tokens.empty) =
      (.document (.ok (upsertAnswer "people")), created, Tokens.empty) :=
    serve_strangerProfile hpeople hregistry rfl _
  have hserved : s.serveThrough [(none, .upsert "people" strangerProfile)]
      (.empty, Tokens.empty) = ([(.upsert "people" strangerProfile,
        .document (.ok (upsertAnswer "people")))], created, Tokens.empty) := by
    simp only [serveThrough, hfirst]
  have hlocked : s.serve (.upsert "people" bareProfile)
      (created.under lockedOutage, Tokens.empty) =
      (.document (.error (.unavailable "the object is locked")), created.under lockedOutage,
        Tokens.empty) := serve_bareProfile_of_locked hpeople rfl _
  have hunlocked : s.serve (.upsert "people" bareProfile) (created.under none, Tokens.empty) =
      (.document (.ok (upsertAnswer "people")), created.put "people" (.object []),
        Tokens.empty) := serve_bareProfile hpeople rfl _
  obtain ⟨hspares, -⟩ := serveThrough_stores_only_successes hserved
  have hsame := (hspares (some lockedOutage) _ _ _ hlocked).1 (.inl rfl)
  have hreplaced := (hspares none _ _ _ hunlocked).2 "people" bareProfile rfl rfl
  exact ⟨s, _, _, _, _, hcreate, hserved, hlocked, hsame, hunlocked, hreplaced,
    hreplaced.find?_of_ne (by decide)⟩

end People

end Requests

end Service

end JsonRules
