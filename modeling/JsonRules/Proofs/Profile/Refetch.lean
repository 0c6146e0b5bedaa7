import JsonRules.Proofs.Profile.NamePattern
import JsonRules.Proofs.Profile.StoredRules

namespace JsonRules

theorem Store.put_eq_self {store : Store} {id : String} {object : Json}
    (hfind : store.find? id = some object)
    (hclosed : withId id (withoutId object) = object) :
    store.put id (withoutId object) = store := by
  rw [put, hclosed, SortedMembers.insert_of_lookup hfind]

/-- The rules under each name after one of them was given an object. -/
theorem Store.map_withoutId_find?_put (store : Store) (id other : String) (object : Json) :
    ((store.put id object).find? other).map withoutId =
      if other = id then some (withoutId object) else (store.find? other).map withoutId := by
  rw [find?_put]
  split
  · rw [Option.map_some, withoutId_withId]
  · rfl

namespace Service

/-- The store can be reached, and each object in it could be stored again: the service takes it, and
it is what it would be after it was stored. -/
structure Settled (s : Service) (store : Store) : Prop where
  reachable : store.outage = none
  hosts : ∀ id object, store.find? id = some object → s.Hosts id object
  closed : ∀ id object, store.find? id = some object →
    Store.withId id (Store.withoutId object) = object

section Settling

variable {s : Service} {σ : Type} {store : Store} {state state' : Store × σ}

theorem settled_empty : s.Settled .empty where
  reachable := rfl
  hosts := by simp [Store.find?, Store.empty]
  closed := by simp [Store.find?, Store.empty]

theorem Settled.put (h : s.Settled store) {id : String} {payload : Json}
    (hvet : s.vet id payload = .ok (Store.withoutId payload)) :
    s.Settled (store.put id (Store.withoutId payload)) where
  reachable := h.reachable
  hosts := by
    intro other object hfind
    rw [Store.find?_put] at hfind
    split at hfind
    · next heq =>
      cases hfind
      rw [heq]
      exact hosts_of_vet hvet
    · exact h.hosts other object hfind
  closed := by
    intro other object hfind
    rw [Store.find?_put] at hfind
    split at hfind
    · next heq =>
      cases hfind
      rw [heq, Store.withoutId_withId, Store.withoutId_withoutId]
    · exact h.closed other object hfind

theorem settled_serve {request : Request σ} {response : Response} (hsettled : s.Settled state.1)
    (h : s.serve request state = (response, state')) : s.Settled state'.1 := by
  obtain ⟨id, payload, -, -, hvet, rfl⟩ | ⟨-, -, hstore⟩ := serve_cases h
  · exact hsettled.put hvet
  · exact hstore ▸ hsettled

theorem settled_serveAll {requests : List (Request σ)} {log : List (Request σ × Response)}
    (hsettled : s.Settled state.1) (h : s.serveAll requests state = (log, state')) :
    s.Settled state'.1 := by
  induction requests generalizing state log with
  | nil =>
    cases h
    exact hsettled
  | cons request rest ih =>
    obtain ⟨response, next, others, hfirst, hrest, -⟩ := serveAll_cons h
    exact ih (settled_serve hsettled hfirst) hrest

end Settling

section Fetched

variable {s : Service} {σ : Type} {store : Store} {id other : String} {object : Json}
  (h : s.Settled store) (hfind : store.find? id = some object)

include h hfind

/-- What is stored under a name may be stored under each name that the service takes. -/
theorem vet_of_settled (hother : s.accepts other = true) :
    s.vet other object = .ok (Store.withoutId object) :=
  vet_eq_ok_iff.2 ⟨hother, (h.hosts id object hfind).storable, rfl⟩

/-- A copy is validated against as the profile that it was made of is, then and before. -/
theorem serve_validate_put (hother : s.accepts other = true) (watch : Watch σ) (target : Json)
    (explain : Bool) (world : σ) :
    s.serve (.validate watch other target explain)
        (store.put other (Store.withoutId object), world) =
      s.serve (.validate watch id target explain)
        (store.put other (Store.withoutId object), world) ∧
    (s.serve (.validate watch id target explain)
        (store.put other (Store.withoutId object), world)).1 =
      (s.serve (.validate watch id target explain) (store, world)).1 := by
  have hid := (h.hosts id object hfind).accepted
  have hreach : (store.put other (Store.withoutId object)).outage = none := h.reachable
  have hbefore : (store.find? id).map Store.withoutId = some (Store.withoutId object) := by
    rw [hfind, Option.map_some]
  have hcopied : ((store.put other (Store.withoutId object)).find? other).map Store.withoutId =
      some (Store.withoutId object) := by
    rw [Store.map_withoutId_find?_put, if_pos rfl, Store.withoutId_withoutId]
  -- the copy may have been stored under the same name
  have hkept : ((store.put other (Store.withoutId object)).find? id).map Store.withoutId =
      some (Store.withoutId object) := by
    rw [Store.map_withoutId_find?_put, Store.withoutId_withoutId, hbefore, ite_self]
  rw [serve_validate_of_rules hreach hother hcopied, serve_validate_of_rules hreach hid hkept,
    serve_validate_of_rules h.reachable hid hbefore]
  exact ⟨rfl, rfl⟩

end Fetched

variable {s : Service} {σ : Type} {state : Store × σ}

/-- Whatever was requested of a service that began with an empty store, what it returns for a name
may be stored again. Under the same name this changes nothing, and under another one it makes a
profile that validates as the first one does. -/
theorem fetched_profile_can_be_stored {requests : List (Request σ)} {start : σ}
    {log : List (Request σ × Response)}
    (h : s.serveAll requests (.empty, start) = (log, state)) :
    ∀ id object, state.1.find? id = some object →
      s.serve (.get id) state = (.document (.ok object), state) ∧
      s.serve (.upsert id object) state = (.document (.ok (upsertAnswer id)), state) ∧
      ∀ other, s.accepts other = true → ∃ copied,
        s.serve (.upsert other object) state =
          (.document (.ok (upsertAnswer other)), copied, state.2) ∧
        ∀ (watch : Watch σ) (target : Json) (explain : Bool) (world : σ),
          s.serve (.validate watch other target explain) (copied, world) =
            s.serve (.validate watch id target explain) (copied, world) ∧
          (s.serve (.validate watch id target explain) (copied, world)).1 =
            (s.serve (.validate watch id target explain) (state.1, world)).1 := by
  intro id object hfind
  have hsettled : s.Settled state.1 := settled_serveAll settled_empty h
  have hid := (hsettled.hosts id object hfind).accepted
  refine ⟨serve_get_of_find? hsettled.reachable hid hfind state.2, ?_, ?_⟩
  · have hvet := vet_of_settled hsettled hfind hid
    have hupsert := serve_upsert_of_vet hsettled.reachable hvet state.2
    rw [Store.put_eq_self hfind (hsettled.closed id object hfind)] at hupsert
    exact hupsert
  · intro other hother
    have hvet := vet_of_settled hsettled hfind hother
    refine ⟨_, serve_upsert_of_vet hsettled.reachable hvet state.2, ?_⟩
    exact serve_validate_put hsettled hfind hother

section People

theorem accepts_staff {s : Service} (h : create {} .builtins = .ok s) :
    s.accepts "staff" = true := by
  obtain ⟨p, hread, rfl⟩ := create_eq_ok_iff.1 h
  have hmatches : ((Pattern.ofText (anchored ({} : Settings).profilePattern)).toOption.any
      fun p => p.matchesIn "staff") = true := by decide +kernel
  rw [hread] at hmatches
  exact hmatches

/-- A profile is fetched, stored again and copied. -/
theorem fetched_strangerProfile_can_be_stored : ∃ s log state object copied,
    create {} .builtins = .ok s ∧
    s.serveAll [.upsert "people" strangerProfile] (.empty, Tokens.empty) = (log, state) ∧
    s.serve (.get "people") state = (.document (.ok object), state) ∧
    s.serve (.upsert "people" object) state =
      (.document (.ok (upsertAnswer "people")), state) ∧
    s.serve (.upsert "staff" object) state =
      (.document (.ok (upsertAnswer "staff")), copied, state.2) ∧
    (s.serve (.validate (Tokens.watch none) "people" .null true) (copied, Tokens.empty)).1 =
      (s.serve (.validate (Tokens.watch none) "people" .null true) (state.1, Tokens.empty)).1 := by
  obtain ⟨s, hcreate, hpeople, -, hregistry⟩ := exists_create_default
  let created := Store.empty.put "people" (RuleHead.checkDocument "absent" "$")
  have hfirst : s.serve (.upsert "people" strangerProfile) (.empty, Tokens.empty) =
      (.document (.ok (upsertAnswer "people")), created, Tokens.empty) :=
    serve_strangerProfile hpeople hregistry rfl _
  have hserved : s.serveAll [.upsert "people" strangerProfile] (.empty, Tokens.empty) =
      ([(.upsert "people" strangerProfile, .document (.ok (upsertAnswer "people")))], created,
        Tokens.empty) := by
    simp only [serveAll, hfirst]
  have hfind : created.find? "people" =
      some (Store.withId "people" (RuleHead.checkDocument "absent" "$")) :=
    (Store.find?_put _ _ _ _).trans (if_pos rfl)
  obtain ⟨hget, hagain, hcopy⟩ := fetched_profile_can_be_stored hserved "people" _ hfind
  obtain ⟨copied, hcopied, hsame⟩ := hcopy "staff" (accepts_staff hcreate)
  obtain ⟨-, hbefore⟩ := hsame (Tokens.watch none) .null true Tokens.empty
  exact ⟨s, _, _, _, copied, hcreate, hserved, hget, hagain, hcopied, hbefore⟩

end People

end Service

end JsonRules
