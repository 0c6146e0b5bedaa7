import JsonRules.Profile.Service
import JsonRules.Proofs.Profile.Store
import JsonRules.Proofs.Rule.Reading

namespace JsonRules

/-- A request to a profile service. Validations come with what they watch. -/
inductive Request (σ : Type) where
  | upsert (id : String) (payload : Json)
  | get (id : String)
  | validate (watch : Watch σ) (id : String) (target : Json) (explain : Bool)
  | inline (watch : Watch σ) (rules : Option Json) (target : Json) (explain : Bool)
  | texts (watch : Watch σ) (target rules : String) (explain : Bool)

inductive Response where
  | document (answer : Except ServiceError Json)
  | report (answer : Except ServiceError Report)

/-- The names and payloads that an exchange stored: those of an upsert that succeeded. -/
def storedBy {σ : Type} : Request σ × Response → List (String × Json)
  | (.upsert id payload, .document (.ok _)) => [(id, payload)]
  | _ => []

def lastStored {σ : Type} (log : List (Request σ × Response)) (id : String) : Option Json :=
  (log.flatMap storedBy).reverse.lookup id

def storedNames {σ : Type} (log : List (Request σ × Response)) : List String :=
  ((log.flatMap storedBy).map Prod.fst).dedup

namespace Service

variable {σ : Type}

def serve (s : Service) : Request σ → Store × σ → Response × Store × σ
  | .upsert id payload, (store, world) =>
    let (answer, store) := (s.upsert id payload).run store
    (.document answer, store, world)
  | .get id, (store, world) =>
    let (answer, store) := (s.get id).run store
    (.document answer, store, world)
  | .validate watch id target explain, (store, world) =>
    let (fetched, store) := (s.rules id).run store
    let (answer, world) := s.validateFetched watch fetched target explain world
    (.report answer, store, world)
  | .inline watch rules target explain, (store, world) =>
    let (answer, world) := s.validateInline watch rules target explain world
    (.report answer, store, world)
  | .texts watch target rules explain, (store, world) =>
    let (answer, world) := s.validateTexts watch target rules explain world
    (.report answer, store, world)

def serveAll (s : Service) : List (Request σ) → Store × σ → List (Request σ × Response) × Store × σ
  | [], state => ([], state)
  | request :: rest, state =>
    let (response, state) := s.serve request state
    let (log, state) := s.serveAll rest state
    ((request, response) :: log, state)

section Plans

variable {s : Service} {store : Store}

/-- What an upsert stores, or why it is refused. -/
def vet (s : Service) (id : String) (payload : Json) : Except ServiceError Json :=
  if s.accepts id then s.rulesOf payload else .error s.invalidId

/-- A payload that can be stored: an object that is a rule document or empty, but for its name. -/
structure Storable (s : Service) (payload : Json) : Prop where
  isObject : ∃ members, payload = .object members
  isRule : Store.withoutId payload = .object [] ∨
    ∃ r, s.engine.readRule (Store.withoutId payload) = .ok r

theorem rulesOf_eq_ok_iff {payload rules : Json} :
    s.rulesOf payload = .ok rules ↔ s.Storable payload ∧ rules = Store.withoutId payload := by
  constructor
  · intro h
    cases payload with
    | object members =>
      rw [rulesOf] at h
      split at h
      · next hempty =>
        cases h
        refine ⟨⟨⟨members, rfl⟩, .inl ?_⟩, rfl⟩
        rw [Store.withoutId] at hempty ⊢
        rcases hkept : Members.erase Store.idField members with _ | ⟨entry, rest⟩
        · rfl
        · rw [hkept] at hempty
          cases hempty
      · split at h
        · next r hread =>
          cases h
          exact ⟨⟨⟨members, rfl⟩, .inr ⟨r, hread⟩⟩, rfl⟩
        · cases h
    | _ => cases h
  · rintro ⟨⟨⟨members, rfl⟩, hempty | ⟨r, hread⟩⟩, rfl⟩
    · rw [rulesOf, hempty]
      rfl
    · rw [rulesOf]
      split
      · rfl
      · rw [hread]

theorem vet_eq_ok_iff {id : String} {payload rules : Json} : s.vet id payload = .ok rules ↔
    s.accepts id = true ∧ s.Storable payload ∧ rules = Store.withoutId payload := by
  rw [vet]
  by_cases hid : s.accepts id = true
  · rw [if_pos hid, rulesOf_eq_ok_iff, and_iff_right hid]
  · rw [if_neg hid]
    simp [hid]

theorem exists_vet_eq_ok_iff {id : String} {payload : Json} :
    (∃ rules, s.vet id payload = .ok rules) ↔ s.accepts id = true ∧ s.Storable payload := by
  simp only [vet_eq_ok_iff, exists_and_left, exists_eq, and_true]

/-- An upsert has the same answer and the same effect whether it creates a profile or replaces
one. -/
theorem run_upsert (h : store.outage = none) (id : String) (payload : Json) :
    (s.upsert id payload).run store =
      match s.vet id payload with
      | .ok rules => (.ok (upsertAnswer id), store.put id rules)
      | .error e => (.error e, store) := by
  rw [upsert, vet]
  by_cases hid : s.accepts id = true
  · rw [if_pos hid, if_pos hid]
    rcases s.rulesOf payload with e | rules
    · rfl
    · rcases hfind : (store.find? id).isSome with _ | _
      · simp [Plan.run, Store.perform_of_reachable h, Store.answer, hfind, changed]
      · simp [Plan.run, Store.perform_of_reachable h, Store.answer, hfind, changed]
  · rw [if_neg hid, if_neg hid]
    rfl

theorem run_get (h : store.outage = none) (id : String) :
    (s.get id).run store =
      (if s.accepts id then
        match store.find? id with
        | some object => .ok object
        | none => .error (.notFound id)
      else .error s.invalidId, store) := by
  rw [get]
  split
  · rw [Plan.run, Store.perform_of_reachable h, Store.answer]
    rcases store.find? id with _ | object
    · rfl
    · rfl
  · rfl

theorem run_rules (h : store.outage = none) (id : String) :
    (s.rules id).run store =
      (if s.accepts id then
        match store.find? id with
        | some object => .ok (some (Store.withoutId object))
        | none => if s.settings.strictProfiles then .error (.notFound id) else .ok none
      else .error s.invalidId, store) := by
  rw [rules]
  split
  · rw [Plan.run, Store.perform_of_reachable h, Store.answer]
    rcases store.find? id with _ | object
    · rcases s.settings.strictProfiles with _ | _
      · rfl
      · rfl
    · rfl
  · rfl

end Plans

section Answers

variable {s : Service} {store : Store} {id : String} (hreach : store.outage = none)

include hreach

theorem serve_get_of_find? {object : Json} (hid : s.accepts id = true)
    (hfind : store.find? id = some object) (world : σ) :
    s.serve (.get id) (store, world) = (.document (.ok object), store, world) := by
  rw [serve, run_get hreach, if_pos hid, hfind]

theorem serve_upsert_of_vet {payload rules : Json} (hvet : s.vet id payload = .ok rules)
    (world : σ) :
    s.serve (.upsert id payload) (store, world) =
      (.document (.ok (upsertAnswer id)), store.put id rules, world) := by
  rw [serve, run_upsert hreach, hvet]

/-- A validation depends on the profile by its rules only, so not by its name. -/
theorem serve_validate_of_rules {rules : Json} (hid : s.accepts id = true)
    (hrules : (store.find? id).map Store.withoutId = some rules) (watch : Watch σ)
    (target : Json) (explain : Bool) (world : σ) :
    s.serve (.validate watch id target explain) (store, world) =
      s.serve (.inline watch (some rules) target explain) (store, world) := by
  obtain ⟨object, hfind, rfl⟩ := Option.map_eq_some_iff.1 hrules
  rw [serve, run_rules hreach, if_pos hid, hfind]
  rfl

end Answers

section Requests

variable {s : Service} {state state' : Store × σ}

/-- A request that is served leaves a store that keeps what was stored before and by the request. -/
theorem keeps_serve {stored : List (String × Json)} {request : Request σ} {response : Response}
    (hkeeps : state.1.Keeps stored) (h : s.serve request state = (response, state')) :
    state'.1.Keeps (stored ++ storedBy (request, response)) := by
  obtain ⟨store, world⟩ := state
  have hreach : store.outage = none := hkeeps.reachable
  -- what every request but an upsert comes to
  have hsame : store.Keeps (stored ++ []) := (List.append_nil stored).symm ▸ hkeeps
  cases request with
  | upsert id payload =>
    rw [serve, run_upsert hreach] at h
    rcases hvet : s.vet id payload with e | rules
    · rw [hvet] at h
      cases h
      exact hsame
    · rw [hvet] at h
      cases h
      obtain ⟨-, ⟨⟨members, rfl⟩, -⟩, rfl⟩ := vet_eq_ok_iff.1 hvet
      exact hkeeps.put id members
  | get id =>
    rw [serve, run_get hreach] at h
    cases h
    exact hsame
  | validate watch id target explain =>
    rw [serve, run_rules hreach] at h
    cases h
    exact hsame
  | inline watch rules target explain =>
    cases h
    exact hsame
  | texts watch target rules explain =>
    cases h
    exact hsame

theorem serveAll_cons {request : Request σ} {rest : List (Request σ)}
    {log : List (Request σ × Response)}
    (h : s.serveAll (request :: rest) state = (log, state')) :
    ∃ response next others, s.serve request state = (response, next) ∧
      s.serveAll rest next = (others, state') ∧ log = (request, response) :: others := by
  rcases hfirst : s.serve request state with ⟨response, next⟩
  rcases hrest : s.serveAll rest next with ⟨others, last⟩
  rw [serveAll, hfirst] at h
  simp only [hrest] at h
  cases h
  exact ⟨response, next, others, rfl, hrest, rfl⟩

/-- Requests that are served leave a store that keeps what was stored before and by them. -/
theorem keeps_serveAll {stored : List (String × Json)} {requests : List (Request σ)}
    {log : List (Request σ × Response)} (hkeeps : state.1.Keeps stored)
    (h : s.serveAll requests state = (log, state')) :
    state'.1.Keeps (stored ++ log.flatMap storedBy) := by
  induction requests generalizing state stored log with
  | nil =>
    cases h
    exact (List.append_nil stored).symm ▸ hkeeps
  | cons request rest ih =>
    obtain ⟨response, next, others, hfirst, hrest, rfl⟩ := serveAll_cons h
    have hnext := ih (keeps_serve hkeeps hfirst) hrest
    rw [List.append_assoc] at hnext
    exact hnext

/-- A profile is there: it has its name, and its rules are those of the payload. -/
structure Knows (s : Service) (state : Store × σ) (id : String) (payload : Json) : Prop where
  get : ∃ object, s.serve (.get id) state = (.document (.ok object), state) ∧
    Store.IsNamed id payload object
  validate : ∀ (watch : Watch σ) (target : Json) (explain : Bool),
    s.serve (.validate watch id target explain) state =
      s.serve (.inline watch (some (Store.withoutId payload)) target explain) state

/-- A profile is not there, which is an error or the same as one without rules. -/
structure Lacks (s : Service) (state : Store × σ) (id : String) : Prop where
  get : s.serve (.get id) state = (.document (.error (.notFound id)), state)
  validate : ∀ (watch : Watch σ) (target : Json) (explain : Bool),
    s.serve (.validate watch id target explain) state =
      if s.settings.strictProfiles then (.report (.error (.notFound id)), state)
      else s.serve (.inline watch none target explain) state

variable {stored : List (String × Json)} {id : String}

/-- Whether an upsert succeeds does not depend on what is stored. -/
theorem serve_upsert_succeeds_iff (h : state.1.outage = none) (payload : Json) :
    (∃ answer, (s.serve (.upsert id payload) state).1 = .document (.ok answer)) ↔
      s.accepts id = true ∧ s.Storable payload := by
  rw [serve, run_upsert h, ← exists_vet_eq_ok_iff]
  rcases s.vet id payload with e | rules
  · simp
  · simp

theorem knows_of_keeps {payload : Json} (hid : s.accepts id = true) (h : state.1.Keeps stored)
    (hpayload : stored.reverse.lookup id = some payload) : s.Knows state id payload := by
  obtain ⟨members, rfl, hfind⟩ := h.find?_of_lookup hpayload
  constructor
  · refine ⟨_, ?_, Store.isNamed_withId id members⟩
    exact serve_get_of_find? h.reachable hid hfind state.2
  · intro watch target explain
    apply serve_validate_of_rules h.reachable hid
    -- the name was taken off by the upsert, put on by the store and is now taken off again
    rw [hfind, Option.map_some, Store.withoutId_withId, Store.withoutId_withoutId]

theorem lacks_of_keeps (hid : s.accepts id = true) (h : state.1.Keeps stored)
    (hpayload : stored.reverse.lookup id = none) : s.Lacks state id := by
  have hfind : state.1.find? id = none := by rw [h.found, hpayload, Option.map_none]
  constructor
  · rw [serve, run_get h.reachable, if_pos hid, hfind]
  · intro watch target explain
    rw [serve, run_rules h.reachable, if_pos hid, hfind]
    dsimp only
    split <;> rfl

/-- Whatever was requested of a service that began with an empty store, it knows the payload that
was stored last under each name, and no other; it has one profile for each name, and it still stores
whatever can be stored. -/
theorem serveAll_knows_last_stored {requests : List (Request σ)} {world : σ}
    {log : List (Request σ × Response)}
    (h : s.serveAll requests (.empty, world) = (log, state)) :
    (∀ id, s.accepts id = true →
      (∀ payload, lastStored log id = some payload → s.Knows state id payload) ∧
      (lastStored log id = none → s.Lacks state id)) ∧
    state.1.size = (storedNames log).length ∧
    ∀ id payload, (∃ answer, (s.serve (.upsert id payload) state).1 = .document (.ok answer)) ↔
      s.accepts id = true ∧ s.Storable payload := by
  have hkeeps : state.1.Keeps (log.flatMap storedBy) := keeps_serveAll Store.keeps_empty h
  refine ⟨fun id hid => ⟨?_, ?_⟩, hkeeps.size_eq, ?_⟩
  · intro payload hpayload
    exact knows_of_keeps hid hkeeps hpayload
  · intro hpayload
    exact lacks_of_keeps hid hkeeps hpayload
  · intro id payload
    exact serve_upsert_succeeds_iff hkeeps.reachable payload

section People

/-- The service with the settings that it has by default. -/
theorem exists_create_default : ∃ s, create {} .builtins = .ok s ∧ s.accepts "people" = true ∧
    s.accepts "no one" = false ∧ s.engine.registry = .builtins := by
  have hmatches : ((Pattern.ofText (anchored ({} : Settings).profilePattern)).toOption.any
      fun p => p.matchesIn "people" && !p.matchesIn "no one") = true := by decide +kernel
  unfold create
  generalize Pattern.ofText (anchored ({} : Settings).profilePattern) = read at hmatches ⊢
  cases read with
  | error message => cases hmatches
  | ok p =>
    change (p.matchesIn "people" && !p.matchesIn "no one") = true at hmatches
    rw [Bool.and_eq_true, Bool.not_eq_true'] at hmatches
    exact ⟨_, rfl, hmatches.1, hmatches.2, rfl⟩

def strangerProfile : Json :=
  .object [("_id", .string "strangers"), ("command", .string "absent"), ("selector", .string "$")]

def bareProfile : Json := .object [("_id", .string "strangers")]

/-- A profile is created, two requests are refused, and the profile is replaced by an empty one. -/
def peopleRequests : List (Request Tokens) :=
  [.upsert "people" strangerProfile, .upsert "people" .null, .upsert "no one" bareProfile,
    .upsert "people" bareProfile]

section Profiles

variable {s : Service} {store : Store} (hid : s.accepts "people" = true)

include hid

theorem vet_strangerProfile (hregistry : s.engine.registry = .builtins) :
    s.vet "people" strangerProfile = .ok (RuleHead.checkDocument "absent" "$") := by
  have hroot : Selector.ofText "$" = .ok ⟨"$", []⟩ := by decide +kernel
  have hread : s.engine.readRule (Store.withoutId strangerProfile) =
      .ok (.check (RuleHead.plainCheck "absent" "$" [] .absent)) := by
    rw [Engine.readRule, hregistry]
    exact Rule.ofJson_of_check (RuleHead.ofJson_checkDocument hroot rfl)
  exact vet_eq_ok_iff.2 ⟨hid, ⟨⟨_, rfl⟩, .inr ⟨_, hread⟩⟩, rfl⟩

theorem vet_bareProfile : s.vet "people" bareProfile = .ok (.object []) := by
  rw [vet, if_pos hid]
  rfl

theorem serve_strangerProfile (hregistry : s.engine.registry = .builtins)
    (hreach : store.outage = none) (world : Tokens) :
    s.serve (.upsert "people" strangerProfile) (store, world) =
      (.document (.ok (upsertAnswer "people")),
        store.put "people" (RuleHead.checkDocument "absent" "$"), world) :=
  serve_upsert_of_vet hreach (vet_strangerProfile hid hregistry) world

theorem serve_bareProfile (hreach : store.outage = none) (world : Tokens) :
    s.serve (.upsert "people" bareProfile) (store, world) =
      (.document (.ok (upsertAnswer "people")), store.put "people" (.object []), world) :=
  serve_upsert_of_vet hreach (vet_bareProfile hid) world

end Profiles

/-- In the end the profile has a name and no rules. -/
theorem serveAll_peopleRequests : ∃ s log state, create {} .builtins = .ok s ∧
    s.serveAll peopleRequests (.empty, Tokens.empty) = (log, state) ∧
    s.accepts "people" = true ∧ lastStored log "people" = some bareProfile ∧
    s.Knows state "people" bareProfile ∧ state.1.size = 1 := by
  obtain ⟨s, hcreate, hpeople, hnone, hregistry⟩ := exists_create_default
  let created := Store.empty.put "people" (RuleHead.checkDocument "absent" "$")
  let replaced := created.put "people" (.object [])
  have hfirst : s.serve (.upsert "people" strangerProfile) (.empty, Tokens.empty) =
      (.document (.ok (upsertAnswer "people")), created, Tokens.empty) :=
    serve_strangerProfile hpeople hregistry rfl _
  have hnull : s.serve (.upsert "people" .null) (created, Tokens.empty) =
      (.document (.error (.invalidPayload "a rule profile must be a JSON object")), created,
        Tokens.empty) := by
    rw [serve, run_upsert rfl, vet, if_pos hpeople, rulesOf]
    simp
  have hrefused : s.serve (.upsert "no one" bareProfile) (created, Tokens.empty) =
      (.document (.error s.invalidId), created, Tokens.empty) := by
    rw [serve, run_upsert rfl, vet, if_neg (by simp [hnone])]
  have hlast : s.serve (.upsert "people" bareProfile) (created, Tokens.empty) =
      (.document (.ok (upsertAnswer "people")), replaced, Tokens.empty) :=
    serve_bareProfile hpeople rfl _
  have hserved : s.serveAll peopleRequests (.empty, Tokens.empty) =
      ([(.upsert "people" strangerProfile, .document (.ok (upsertAnswer "people"))),
        (.upsert "people" .null,
          .document (.error (.invalidPayload "a rule profile must be a JSON object"))),
        (.upsert "no one" bareProfile, .document (.error s.invalidId)),
        (.upsert "people" bareProfile, .document (.ok (upsertAnswer "people")))],
      replaced, Tokens.empty) := by
    simp only [peopleRequests, serveAll, hfirst, hnull, hrefused, hlast]
  obtain ⟨hknows, hsize, -⟩ := serveAll_knows_last_stored hserved
  have hpayload := (hknows "people" hpeople).1 bareProfile rfl
  exact ⟨s, _, _, hcreate, hserved, hpeople, rfl, hpayload, hsize.trans rfl⟩

end People

end Requests

end Service

end JsonRules
