import JsonRules.Proofs.Engine.Cancellation
import JsonRules.Proofs.Profile.Outages

namespace JsonRules

namespace Engine

section Answers

variable {e : Engine} {σ : Type} {watch : Watch σ}

/-- A watch that never stops anything changes no answer. -/
theorem fst_validateUntil_of_not_stops (hgo : ∀ s, (watch.stops s).1 = false)
    (rules : Option Json) (target : Json) (explain : Bool) (world : σ) :
    (e.validateUntil watch rules target explain world).1 =
      (e.validate rules target explain).mapError .rule := by
  obtain ⟨document, rule, rfl, hread⟩ | hunasked := e.validateUntil_cases watch rules world
  · have hcomplete : (rule.evaluate target explain).isComplete = true := by
      rw [Outcome.isComplete_eq_all, Rule.checks_evaluate, List.all_map]
      exact List.all_eq_true.2 fun _ _ => rfl
    rw [validateUntil_eq_settle hread, validate_of_readRule hread,
      Rule.run_eq_evaluate target explain hgo rule world, settle, if_pos hcomplete]
    rfl
  · rw [hunasked]

/-- Against an object that is empty, or else a rule document, a validation has a report, which a
watch can only take away. -/
theorem exists_validate_eq_ok {document : Json}
    (h : document = .object [] ∨ ∃ r, e.readRule document = .ok r) (target : Json)
    (explain : Bool) :
    ∃ report, e.validate (some document) target explain = .ok report ∧
      ∀ {σ : Type} (watch : Watch σ) (world : σ),
        (e.validateUntil watch (some document) target explain world).1 = .ok report ∨
        ∃ evaluated total, (e.validateUntil watch (some document) target explain world).1 =
          .error (.cancelled evaluated total) := by
  obtain rfl | ⟨r, hread⟩ := h
  · exact ⟨_, rfl, fun _ _ => .inl rfl⟩
  · refine ⟨_, validate_of_readRule hread target explain, fun watch world => ?_⟩
    rw [validateUntil_of_readRule hread]
    by_cases hall : r.testedCount watch target world = r.checkCount
    · exact .inl (if_pos hall)
    · exact .inr ⟨_, _, if_neg hall⟩

end Answers

end Engine

namespace Service

variable {s : Service} {σ : Type} {store : Store} {state state' : Store × σ}

/-- An object is as an upsert under a name leaves it: the service takes the name, the object has it,
and the rest of the object is empty or a rule document. -/
structure Hosts (s : Service) (id : String) (object : Json) : Prop where
  accepted : s.accepts id = true
  named : object.get? Store.idField = some (.string id)
  storable : s.Storable object

theorem hosts_of_vet {id : String} {payload rules : Json} (h : s.vet id payload = .ok rules) :
    s.Hosts id (Store.withId id rules) := by
  obtain ⟨hid, hstorable, rfl⟩ := vet_eq_ok_iff.1 h
  obtain ⟨members, rfl⟩ := hstorable.isObject
  refine ⟨hid, (Store.isNamed_withId id members).name, ⟨⟨_, rfl⟩, ?_⟩⟩
  -- what is read again later is what was read before it was stored
  rw [Store.withoutId_withId, Store.withoutId_withoutId]
  exact hstorable.isRule

theorem hosts_serve {request : Request σ} {response : Response}
    (hhosts : ∀ entry ∈ state.1.objects.members, s.Hosts entry.1 entry.2)
    (h : s.serve request state = (response, state')) :
    ∀ entry ∈ state'.1.objects.members, s.Hosts entry.1 entry.2 := by
  intro entry hentry
  obtain ⟨id, payload, -, -, hvet, rfl⟩ | ⟨-, -, hstore⟩ := serve_cases h
  · obtain rfl | hold := Members.mem_of_mem_insert _ _ _ hentry
    · exact hosts_of_vet hvet
    · exact hhosts entry hold
  · exact hhosts entry (hstore ▸ hentry)

theorem hosts_serveThrough {turns : List (Option Outage × Request σ)}
    {log : List (Request σ × Response)}
    (hhosts : ∀ entry ∈ state.1.objects.members, s.Hosts entry.1 entry.2)
    (h : s.serveThrough turns state = (log, state')) :
    ∀ entry ∈ state'.1.objects.members, s.Hosts entry.1 entry.2 := by
  induction turns generalizing state log with
  | nil =>
    cases h
    exact hhosts
  | cons turn rest ih =>
    obtain ⟨outage, request⟩ := turn
    obtain ⟨response, next, others, hfirst, hrest, -⟩ := serveThrough_cons h
    -- an outage leaves the objects as they are
    refine ih (hosts_serve ?_ hfirst) hrest
    exact hhosts

/-- What a validation against a profile is answered if nothing stops it. -/
def unstopped (s : Service) (store : Store) (id : String) (target : Json) (explain : Bool) :
    Except ServiceError Report :=
  match store.find? id with
  | some object =>
    (s.engine.validate (some (Store.withoutId object)) target explain).mapError
      (.validation ∘ .rule)
  | none => if s.settings.strictProfiles then .error (.notFound id) else .ok (.trivial explain)

section Validation

variable {id : String} (hreach : store.outage = none) (hid : s.accepts id = true)

include hreach hid

theorem serve_validate_of_not_stops {watch : Watch σ} (hgo : ∀ w, (watch.stops w).1 = false)
    (target : Json) (explain : Bool) (world : σ) :
    (s.serve (.validate watch id target explain) (store, world)).1 =
      .report (s.unstopped store id target explain) := by
  rw [serve, run_rules hreach, if_pos hid, unstopped]
  rcases store.find? id with _ | object
  · rcases s.settings.strictProfiles with _ | _
    · rfl
    · rfl
  · have hanswer := Engine.fst_validateUntil_of_not_stops hgo
      (some (Store.withoutId object)) target explain world (e := s.engine)
    dsimp only [validateFetched, validateInline]
    rw [hanswer]
    rcases s.engine.validate (some (Store.withoutId object)) target explain with e | report
    · rfl
    · rfl

theorem serve_validate_of_hosts (hhosts : ∀ entry ∈ store.objects.members, s.Hosts entry.1 entry.2)
    (watch : Watch σ) (target : Json) (explain : Bool) (world : σ) :
    (s.serve (.validate watch id target explain) (store, world)).1 =
        .report (s.unstopped store id target explain) ∨
      ∃ evaluated total, (s.serve (.validate watch id target explain) (store, world)).1 =
        .report (.error (.validation (.cancelled evaluated total))) := by
  rw [serve, run_rules hreach, if_pos hid, unstopped]
  rcases hfind : store.find? id with _ | object
  · rcases s.settings.strictProfiles with _ | _
    · exact .inl rfl
    · exact .inl rfl
  · have hobject := hhosts (id, object) (Members.mem_of_lookup id object hfind)
    obtain ⟨report, hreport, huntil⟩ :=
      Engine.exists_validate_eq_ok hobject.storable.isRule target explain
    dsimp only [validateFetched, validateInline]
    rw [hreport]
    obtain hsame | ⟨evaluated, total, hcancelled⟩ := huntil watch world
    · rw [hsame]
      exact .inl rfl
    · rw [hcancelled]
      exact .inr ⟨evaluated, total, rfl⟩

end Validation

theorem unstopped_of_hosts {id : String}
    (hhosts : ∀ entry ∈ store.objects.members, s.Hosts entry.1 entry.2) (target : Json)
    (explain : Bool) :
    (∃ report, s.unstopped store id target explain = .ok report) ∨
      s.settings.strictProfiles = true ∧ store.find? id = none ∧
        s.unstopped store id target explain = .error (.notFound id) := by
  rw [unstopped]
  rcases hfind : store.find? id with _ | object
  · rcases s.settings.strictProfiles with _ | _
    · exact .inl ⟨_, rfl⟩
    · exact .inr ⟨rfl, rfl, rfl⟩
  · have hobject := hhosts (id, object) (Members.mem_of_lookup id object hfind)
    obtain ⟨report, hreport, -⟩ :=
      Engine.exists_validate_eq_ok hobject.storable.isRule target explain
    dsimp only
    rw [hreport]
    exact .inl ⟨report, rfl⟩

/-- Whatever was requested of a service that began with an empty store, and whichever calls of the
store failed meanwhile: all that is stored is as an upsert left it. So while the store can be
reached, a validation against a profile that is there has a report, and a token can only take it
away; the rules of a profile are never at fault. -/
theorem serveThrough_hosts_only_rules {turns : List (Option Outage × Request σ)} {start : σ}
    {log : List (Request σ × Response)}
    (h : s.serveThrough turns (.empty, start) = (log, state)) :
    (∀ entry ∈ state.1.objects.members, s.Hosts entry.1 entry.2) ∧
    ∀ id, s.accepts id = true → ∀ target explain, ∃ answer,
      ((∃ report, answer = .ok report) ∨ s.settings.strictProfiles = true ∧
        state.1.find? id = none ∧ answer = .error (.notFound id)) ∧
      ∀ (watch : Watch σ) (world : σ), ∃ response,
        (s.serve (.validate watch id target explain) (state.1.under none, world)).1 =
          .report response ∧
        (response = answer ∨ ∃ evaluated total,
          response = .error (.validation (.cancelled evaluated total))) ∧
        ((∀ w, (watch.stops w).1 = false) → response = answer) := by
  have hhosts : ∀ entry ∈ state.1.objects.members, s.Hosts entry.1 entry.2 :=
    hosts_serveThrough (fun entry hentry => (List.not_mem_nil hentry).elim) h
  refine ⟨hhosts, fun id hid target explain =>
    ⟨s.unstopped state.1 id target explain, unstopped_of_hosts hhosts target explain, ?_⟩⟩
  intro watch world
  have hreach : (state.1.under none).outage = none := rfl
  have hunder : ∀ entry ∈ (state.1.under none).objects.members, s.Hosts entry.1 entry.2 := hhosts
  obtain hsame | ⟨evaluated, total, hcancelled⟩ :=
    serve_validate_of_hosts hreach hid hunder watch target explain world
  · exact ⟨_, hsame, .inl rfl, fun _ => rfl⟩
  · refine ⟨_, hcancelled, .inr ⟨evaluated, total, rfl⟩, fun hgo => ?_⟩
    have hsame := serve_validate_of_not_stops hreach hid hgo target explain world
    exact Response.report.inj (hcancelled.symm.trans hsame)

section People

/-- The profile that was stored last has a report, whatever it is asked about. -/
theorem serveThrough_hosts_strangerProfile : ∃ s log state, create {} .builtins = .ok s ∧
    s.serveThrough [(none, .upsert "people" strangerProfile),
      (some lockedOutage, .upsert "people" bareProfile)] (.empty, Tokens.empty) = (log, state) ∧
    s.Hosts "people" (Store.withId "people" (RuleHead.checkDocument "absent" "$")) ∧
    ∃ report, (s.serve (.validate (Tokens.watch none) "people" .null true)
      (state.1.under none, Tokens.empty)).1 = .report (.ok report) := by
  obtain ⟨s, hcreate, hpeople, -, hregistry⟩ := exists_create_default
  let created := Store.empty.put "people" (RuleHead.checkDocument "absent" "$")
  have hfirst : s.serve (.upsert "people" strangerProfile) (Store.empty.under none, Tokens.empty) =
      (.document (.ok (upsertAnswer "people")), created, Tokens.empty) :=
    serve_strangerProfile hpeople hregistry rfl _
  have hlocked : s.serve (.upsert "people" bareProfile)
      (created.under lockedOutage, Tokens.empty) =
      (.document (.error (.unavailable "the object is locked")), created.under lockedOutage,
        Tokens.empty) := serve_bareProfile_of_locked hpeople rfl _
  have hserved : s.serveThrough [(none, .upsert "people" strangerProfile),
      (some lockedOutage, .upsert "people" bareProfile)] (.empty, Tokens.empty) =
      ([(.upsert "people" strangerProfile, .document (.ok (upsertAnswer "people"))),
        (.upsert "people" bareProfile,
          .document (.error (.unavailable "the object is locked")))],
      created.under lockedOutage, Tokens.empty) := by
    simp only [serveThrough, hfirst, hlocked]
  obtain ⟨hhosts, hanswer⟩ := serveThrough_hosts_only_rules hserved
  obtain ⟨answer, hreport | ⟨-, hnone, -⟩, hwatch⟩ := hanswer "people" hpeople .null true
  · obtain ⟨report, rfl⟩ := hreport
    obtain ⟨response, hresponse, -, hsame⟩ := hwatch (Tokens.watch none) Tokens.empty
    obtain rfl := hsame fun _ => rfl
    exact ⟨s, _, _, hcreate, hserved, hhosts ("people", _) List.mem_cons_self, report, hresponse⟩
  · cases hnone

end People

end Service

end JsonRules
