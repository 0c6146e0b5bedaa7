import JsonRules.Proofs.Profile.Requests
import Mathlib.Data.List.Dedup
import Mathlib.Logic.Function.Basic

namespace JsonRules

structure StoreEvent (ι : Type) where
  maker : ι
  call : StoreCall
  answer : Except StoreError call.Answer

/-- Those who made calls, in the order of the last call of each. -/
def finishers {ι : Type} [DecidableEq ι] (events : List (StoreEvent ι)) : List ι :=
  (events.map StoreEvent.maker).dedup

/-- Plans that are carried out side by side. Any plan that has not come to its end may make the next
call, and nothing comes between a call and its answer. -/
inductive Interleaved {ι α : Type} [DecidableEq ι] :
    (ι → Plan α) → Store → List (StoreEvent ι) → (ι → Plan α) → Store → Prop
  | nil (plans : ι → Plan α) (store : Store) : Interleaved plans store [] plans store
  | cons {plans plans' : ι → Plan α} {store store' : Store} {events : List (StoreEvent ι)} {k : ι}
      {c : StoreCall} {next : Except StoreError c.Answer → Plan α} :
      plans k = .call c next →
        Interleaved (Function.update plans k (next (store.perform c).1)) (store.perform c).2 events
          plans' store' →
        Interleaved plans store (⟨k, c, (store.perform c).1⟩ :: events) plans' store'

namespace Store

structure Grows (before after : Store) : Prop where
  reachable : after.outage = none
  kept : ∀ id, (before.find? id).isSome = true → (after.find? id).isSome = true

variable {store later final : Store}

theorem Grows.refl (h : store.outage = none) : store.Grows store := ⟨h, fun _ => id⟩

theorem Grows.trans (h : store.Grows later) (h' : later.Grows final) : store.Grows final :=
  ⟨h'.reachable, fun id hid => h'.kept id (h.kept id hid)⟩

theorem grows_put (h : store.outage = none) (id : String) (object : Json) :
    store.Grows (store.put id object) where
  reachable := h
  kept := by
    intro other hother
    rw [find?_put]
    split
    · rfl
    · exact hother

theorem grows_perform (h : store.outage = none) (c : StoreCall) :
    store.Grows (store.perform c).2 := by
  rw [perform_of_reachable h]
  cases c with
  | has id => exact .refl h
  | get id =>
    rw [answer]
    split
    · exact .refl h
    · exact .refl h
  | create id object => exact grows_put h id object
  | update id object =>
    rw [answer]
    split
    · exact grows_put h id object
    · exact .refl h

end Store

namespace Plan

variable {α β : Type}

def map (f : α → β) : Plan α → Plan β
  | done a => done (f a)
  | call c next => call c fun answer => (next answer).map f

def runAll : List (Plan α) → Store → List α × Store
  | [], store => ([], store)
  | plan :: rest, store =>
    let (a, store) := plan.run store
    let (as, store) := runAll rest store
    (a :: as, store)

/-- From a store on, all calls of the plan but the last one only prepare it: they change nothing,
and after them the plan still does what all of it would do at the moment. None of its updates fails.
-/
def LastCallDecides : Plan α → Store → Prop
  | done _, _ => True
  | call c next, store => ∀ later, store.Grows later →
      (c.kind = .update → ∃ a, (later.perform c).1 = .ok a) ∧
      ((∃ a, next (later.perform c).1 = done a) ∨
        (later.perform c).2 = later ∧ (next (later.perform c).1).LastCallDecides later ∧
          ∀ final, later.Grows final →
            (next (later.perform c).1).run final = (call c next).run final)

variable {plan : Plan α} {store later : Store}

theorem run_map (f : α → β) (plan : Plan α) (store : Store) :
    (plan.map f).run store = (f (plan.run store).1, (plan.run store).2) := by
  induction plan generalizing store with
  | done a => rfl
  | call c next ih => exact ih _ _

theorem grows_run (plan : Plan α) (h : store.outage = none) : store.Grows (plan.run store).2 := by
  induction plan generalizing store with
  | done a => exact .refl h
  | call c next ih =>
    have hcall := Store.grows_perform h c
    exact hcall.trans (ih _ hcall.reachable)

theorem LastCallDecides.mono (h : plan.LastCallDecides store) (hgrows : store.Grows later) :
    plan.LastCallDecides later := by
  cases plan with
  | done a => exact h
  | call c next => exact fun final hfinal => h final (hgrows.trans hfinal)

theorem LastCallDecides.map (h : plan.LastCallDecides store) (f : α → β) :
    (plan.map f).LastCallDecides store := by
  induction plan generalizing store with
  | done a => exact trivial
  | call c next ih =>
    intro later hlater
    obtain ⟨hupdate, ⟨a, hdone⟩ | ⟨hsame, hrest, hrun⟩⟩ := h later hlater
    · exact ⟨hupdate, .inl ⟨f a, congrArg (Plan.map f) hdone⟩⟩
    · refine ⟨hupdate, .inr ⟨hsame, ih _ hrest, fun final hfinal => ?_⟩⟩
      rw [← Plan.map, run_map, run_map, hrun final hfinal]

/-- Plans that would do the same at every moment do the same one after the other. -/
theorem runAll_congr {ι : Type} {plans plans' : ι → Plan α} {order : List ι}
    (hreach : store.outage = none)
    (h : ∀ k ∈ order, ∀ later, store.Grows later → (plans k).run later = (plans' k).run later) :
    runAll (order.map plans) store = runAll (order.map plans') store := by
  induction order generalizing store with
  | nil => rfl
  | cons k rest ih =>
    have hgrows := grows_run (plans k) hreach
    have hfirst := h k List.mem_cons_self store (.refl hreach)
    have hrest := ih hgrows.reachable fun j hj later hlater =>
      h j (List.mem_cons_of_mem k hj) later (hgrows.trans hlater)
    rw [hfirst] at hrest
    rw [List.map_cons, List.map_cons, runAll, runAll, hfirst]
    dsimp only
    rw [hrest]

/-- What a plan answers among others is what it answers at some later moment. -/
theorem exists_run_of_runAll {ι : Type} {plans : ι → Plan α} {answers : ι → α} {order : List ι}
    {store' : Store} (hreach : store.outage = none)
    (h : runAll (order.map plans) store = (order.map answers, store')) {k : ι} (hk : k ∈ order) :
    ∃ later, store.Grows later ∧ ((plans k).run later).1 = answers k := by
  induction order generalizing store with
  | nil => exact (List.not_mem_nil hk).elim
  | cons j rest ih =>
    rw [List.map_cons, List.map_cons, runAll] at h
    injection h with hlist hstore
    injection hlist with hanswer hanswers
    obtain rfl | hk := List.mem_cons.1 hk
    · exact ⟨store, .refl hreach, hanswer⟩
    · have hgrows := grows_run (plans j) hreach
      obtain ⟨later, hlater, hrun⟩ := ih hgrows.reachable (Prod.ext hanswers hstore) hk
      exact ⟨later, hgrows.trans hlater, hrun⟩

/-- Plans without calls may stand anywhere. -/
theorem runAll_of_filter {ι : Type} {plans : ι → Plan α} {answers : ι → α} {order : List ι}
    {p : ι → Bool} {store' : Store} (hdone : ∀ k ∈ order, p k = false → plans k = done (answers k))
    (h : runAll ((order.filter p).map plans) store = ((order.filter p).map answers, store')) :
    runAll (order.map plans) store = (order.map answers, store') := by
  induction order generalizing store with
  | nil => exact h
  | cons k rest ih =>
    have hrest : ∀ j ∈ rest, p j = false → plans j = done (answers j) := fun j hj =>
      hdone j (List.mem_cons_of_mem k hj)
    rw [List.map_cons, runAll]
    rcases hk : p k with _ | _
    · rw [List.filter_cons_of_neg (by simp [hk])] at h
      rw [hdone k List.mem_cons_self hk, run]
      dsimp only
      rw [ih hrest h]
      rfl
    · rw [List.filter_cons_of_pos hk, List.map_cons, List.map_cons, runAll] at h
      injection h with hlist hstore
      injection hlist with hanswer hanswers
      have htail := ih hrest (Prod.ext hanswers hstore)
      dsimp only
      rw [htail, hanswer]
      rfl

end Plan

namespace Interleaved

variable {ι α : Type} [DecidableEq ι] {plans plans' : ι → Plan α} {store store' : Store}
variable {events : List (StoreEvent ι)}

/-- Who makes no call stays where it is. -/
theorem eq_of_not_mem (h : Interleaved plans store events plans' store') {k : ι}
    (hk : k ∉ events.map StoreEvent.maker) : plans' k = plans k := by
  induction h with
  | nil plans store => rfl
  | cons _ _ ih =>
    rw [List.map_cons, List.mem_cons, not_or] at hk
    rw [ih hk.2, Function.update_of_ne hk.1]

/-- Who has come to the end makes no call. -/
theorem not_mem_of_done (h : Interleaved plans store events plans' store') {k : ι} {a : α}
    (hk : plans k = .done a) : k ∉ events.map StoreEvent.maker := by
  induction h with
  | nil plans store => exact List.not_mem_nil
  | @cons plans _ store _ events j c next hj _ ih =>
    have hne : k ≠ j := by
      rintro rfl
      cases hk.symm.trans hj
    have hrest := ih ((Function.update_of_ne hne _ _).trans hk)
    rw [List.map_cons, List.mem_cons, not_or]
    exact ⟨hne, hrest⟩

/-- What a call leaves of a plan whose last call decides. -/
theorem update_lastCallDecides {k : ι} {c : StoreCall}
    {next : Except StoreError c.Answer → Plan α} (hreach : store.outage = none)
    (hplans : ∀ k, (plans k).LastCallDecides store) (hk : plans k = .call c next) (j : ι) :
    (Function.update plans k (next (store.perform c).1) j).LastCallDecides
      (store.perform c).2 := by
  have hgrows := Store.grows_perform hreach c
  by_cases hj : j = k
  · subst hj
    rw [Function.update_self]
    have hcall := hplans j
    rw [hk] at hcall
    obtain ⟨-, ⟨a, hdone⟩ | ⟨hsame, hrest, -⟩⟩ := hcall store (.refl hreach)
    · rw [hdone]
      exact trivial
    · rw [hsame]
      exact hrest
  · rw [Function.update_of_ne hj]
    exact (hplans j).mono hgrows

theorem exists_eq_ok_of_update (h : Interleaved plans store events plans' store')
    (hreach : store.outage = none) (hplans : ∀ k, (plans k).LastCallDecides store) :
    ∀ event ∈ events, event.call.kind = .update → ∃ a, event.answer = .ok a := by
  induction h with
  | nil plans store => exact fun _ hnil => (List.not_mem_nil hnil).elim
  | @cons plans _ store _ events k c next hk _ ih =>
    have hrest := ih (Store.grows_perform hreach c).reachable
      (update_lastCallDecides hreach hplans hk)
    intro event hevent hupdate
    obtain rfl | hevent := List.mem_cons.1 hevent
    · have hcall := hplans k
      rw [hk] at hcall
      exact (hcall store (.refl hreach)).1 hupdate
    · exact hrest event hevent hupdate

/-- If all plans come to their ends, they do what those who made calls would have done one after the
other, in the order of their last calls. -/
theorem runAll_finishers (h : Interleaved plans store events plans' store')
    (hreach : store.outage = none) (hplans : ∀ k, (plans k).LastCallDecides store)
    {answers : ι → α} (hdone : ∀ k, plans' k = .done (answers k)) :
    Plan.runAll ((finishers events).map plans) store =
      ((finishers events).map answers, store') := by
  induction h with
  | nil plans store => rfl
  | @cons plans plans' store store' events k c next hk hrest ih =>
    have hgrows := Store.grows_perform hreach c
    have hserial := ih hgrows.reachable (update_lastCallDecides hreach hplans hk) hdone
    have hcall := hplans k
    rw [hk] at hcall
    obtain ⟨-, hcall⟩ := hcall store (.refl hreach)
    by_cases hagain : k ∈ events.map StoreEvent.maker
    · -- the call was not the last one, so it only prepared what comes later
      rw [finishers, List.map_cons, List.dedup_cons_of_mem hagain, ← finishers, ← hserial]
      obtain ⟨a, hend⟩ | ⟨hsame, -, hrun⟩ := hcall
      · exact (hrest.not_mem_of_done ((Function.update_self k _ _).trans hend) hagain).elim
      · rw [hsame]
        refine Plan.runAll_congr hreach fun j _ later hlater => ?_
        by_cases hj : j = k
        · subst hj
          rw [Function.update_self, hrun later hlater, hk]
        · rw [Function.update_of_ne hj]
    · -- the call was the last one, so the plan has been carried out
      have hend : next (store.perform c).1 = .done (answers k) := by
        have huntouched := hrest.eq_of_not_mem hagain
        rw [Function.update_self] at huntouched
        exact huntouched.symm.trans (hdone k)
      have hothers : Plan.runAll ((finishers events).map plans) (store.perform c).2 =
          ((finishers events).map answers, store') := by
        rw [← hserial]
        refine Plan.runAll_congr hgrows.reachable fun j hj later _ => ?_
        have hne : j ≠ k := fun heq => hagain (heq ▸ List.mem_dedup.1 hj)
        rw [Function.update_of_ne hne]
      rw [finishers, List.map_cons, List.dedup_cons_of_notMem hagain, ← finishers, List.map_cons,
        List.map_cons, Plan.runAll, hk, Plan.run, hend, Plan.run]
      dsimp only
      rw [hothers]

end Interleaved

namespace Service

variable {σ : Type}

/-- The answer to a request whose calls have all been made. What it is may still depend on the world
in which a validation is run. -/
abbrev Reply (σ : Type) := σ → Response × σ

def plan (s : Service) : Request σ → Plan (Reply σ)
  | .upsert id payload => (s.upsert id payload).map fun answer world => (.document answer, world)
  | .get id => (s.get id).map fun answer world => (.document answer, world)
  | .validate watch id target explain => (s.rules id).map fun fetched world =>
    let (answer, world) := s.validateFetched watch fetched target explain world
    (.report answer, world)
  | .inline watch rules target explain => .done fun world =>
    let (answer, world) := s.validateInline watch rules target explain world
    (.report answer, world)
  | .texts watch target rules explain => .done fun world =>
    let (answer, world) := s.validateTexts watch target rules explain world
    (.report answer, world)

def respondAll : List (Request σ × Reply σ) → σ → List (Request σ × Response) × σ
  | [], world => ([], world)
  | (request, reply) :: rest, world =>
    let (response, world) := reply world
    let (log, world) := respondAll rest world
    ((request, response) :: log, world)

variable {s : Service} {store store' : Store}

theorem serve_eq_run_plan (request : Request σ) (store : Store) (world : σ) :
    s.serve request (store, world) =
      ((((s.plan request).run store).1 world).1, ((s.plan request).run store).2,
        (((s.plan request).run store).1 world).2) := by
  cases request with
  | upsert id payload => rw [serve, plan, Plan.run_map]
  | get id => rw [serve, plan, Plan.run_map]
  | validate watch id target explain => rw [serve, plan, Plan.run_map]
  | inline watch rules target explain => rfl
  | texts watch target rules explain => rfl

theorem serveAll_of_runAll {ι : Type} {requests : ι → Request σ} {answers : ι → Reply σ}
    {order : List ι}
    (h : Plan.runAll (order.map fun k => s.plan (requests k)) store = (order.map answers, store'))
    (world : σ) :
    s.serveAll (order.map requests) (store, world) =
      ((respondAll (order.map fun k => (requests k, answers k)) world).1, store',
        (respondAll (order.map fun k => (requests k, answers k)) world).2) := by
  induction order generalizing store world with
  | nil =>
    cases h
    rfl
  | cons k rest ih =>
    rw [List.map_cons, List.map_cons, Plan.runAll] at h
    injection h with hlist hstore
    injection hlist with hanswer hanswers
    have hrest := ih (Prod.ext hanswers hstore) (answers k world).2
    rw [List.map_cons, serveAll, serve_eq_run_plan, hanswer]
    dsimp only
    rw [hrest]
    rfl

/-- What is left of an upsert when the store has answered whether the name is there. -/
def putPlan (id : String) (rules : Json) : Except StoreError Bool → Plan (Except ServiceError Json)
  | .error e => .done (.error (.ofStore e))
  | .ok true => .call (.update id rules) (changed id)
  | .ok false => .call (.create id rules) (changed id)

theorem upsert_of_vet {id : String} {payload rules : Json} (h : s.vet id payload = .ok rules) :
    s.upsert id payload = .call (.has id) (putPlan id rules) := by
  rw [vet] at h
  split at h
  · next hid =>
    rw [upsert, if_pos hid, h]
    refine congrArg (Plan.call _) (funext fun found => ?_)
    rcases found with e | _ | _
    · rfl
    · rfl
    · rfl
  · cases h

theorem upsert_of_vet_eq_error {id : String} {payload : Json} {e : ServiceError}
    (h : s.vet id payload = .error e) : s.upsert id payload = .done (.error e) := by
  rw [vet] at h
  split at h
  · next hid => rw [upsert, if_pos hid, h]
  · next hid =>
    cases h
    rw [upsert, if_neg hid]

section PutPlan

variable {later final : Store} (hgrows : later.Grows final) (id : String) (rules : Json)

include hgrows

/-- Whether the name was there when that was asked makes no difference to what is stored. -/
theorem run_putPlan : (putPlan id rules (.ok (later.find? id).isSome)).run final =
    (.ok (upsertAnswer id), final.put id rules) := by
  rcases hfind : (later.find? id).isSome with _ | _
  · rw [putPlan, Plan.run, Store.perform_of_reachable hgrows.reachable]
    rfl
  · rw [putPlan, Plan.run, Store.perform_of_reachable hgrows.reachable, Store.answer,
      if_pos (hgrows.kept id hfind)]
    rfl

omit hgrows in
theorem lastCallDecides_putPlan :
    (putPlan id rules (.ok (later.find? id).isSome)).LastCallDecides later := by
  rcases hfind : (later.find? id).isSome with _ | _
  · intro final hfinal
    rw [Store.perform_of_reachable hfinal.reachable]
    exact ⟨nofun, .inl ⟨_, rfl⟩⟩
  · intro final hfinal
    -- a name that is there stays there, so the update finds it
    rw [Store.perform_of_reachable hfinal.reachable, Store.answer, if_pos (hfinal.kept id hfind)]
    exact ⟨fun _ => ⟨_, rfl⟩, .inl ⟨_, rfl⟩⟩

end PutPlan

theorem lastCallDecides_upsert (id : String) (payload : Json) :
    (s.upsert id payload).LastCallDecides store := by
  rcases hvet : s.vet id payload with e | rules
  · rw [upsert_of_vet_eq_error hvet]
    exact trivial
  · have hupsert := upsert_of_vet hvet
    rw [hupsert]
    intro later hlater
    have hreach := hlater.reachable
    rw [Store.perform_of_reachable hreach, Store.answer]
    refine ⟨by rintro ⟨⟩, .inr ⟨rfl, lastCallDecides_putPlan id rules, fun final hfinal => ?_⟩⟩
    rw [← hupsert, run_upsert hfinal.reachable, hvet]
    exact run_putPlan hfinal id rules

theorem lastCallDecides_get (id : String) : (s.get id).LastCallDecides store := by
  rw [get]
  split
  · exact fun later _ => ⟨by rintro ⟨⟩, .inl ⟨_, rfl⟩⟩
  · exact trivial

theorem lastCallDecides_rules (id : String) : (s.rules id).LastCallDecides store := by
  rw [rules]
  split
  · refine fun later _ => ⟨by rintro ⟨⟩, .inl ?_⟩
    rcases (later.perform (.get id)).1 with (other | reason) | object
    · rcases s.settings.strictProfiles with _ | _
      · exact ⟨_, rfl⟩
      · exact ⟨_, rfl⟩
    · exact ⟨_, rfl⟩
    · exact ⟨_, rfl⟩
  · exact trivial

theorem lastCallDecides_plan (request : Request σ) (store : Store) :
    (s.plan request).LastCallDecides store := by
  cases request with
  | upsert id payload => exact (lastCallDecides_upsert id payload).map _
  | get id => exact (lastCallDecides_get id).map _
  | validate watch id target explain => exact (lastCallDecides_rules id).map _
  | inline watch rules target explain => exact trivial
  | texts watch target rules explain => exact trivial

section Requests

variable {ι : Type} [DecidableEq ι] {requests : ι → Request σ} {plans : ι → Plan (Reply σ)}
variable {events : List (StoreEvent ι)} {answers : ι → Reply σ}

/-- An upsert makes calls if it is not refused, so it is one of those that were carried out one
after the other, and nothing that was done before it makes it fail. -/
theorem answer_of_interleaved_upsert
    (h : Interleaved (fun k => s.plan (requests k)) store events plans store')
    (hreach : store.outage = none) (hdone : ∀ k, plans k = .done (answers k)) {k : ι} {id : String}
    {payload : Json} (hrequest : requests k = .upsert id payload) (hid : s.accepts id = true)
    (hpayload : s.Storable payload) (world : σ) :
    answers k world = (.document (.ok (upsertAnswer id)), world) := by
  have hvet := vet_eq_ok_iff.2 ⟨hid, hpayload, rfl⟩
  have hplan : s.plan (requests k) =
      (s.upsert id payload).map fun answer world => (.document answer, world) := by
    rw [hrequest, plan]
  have hmade : k ∈ finishers events := by
    refine List.mem_dedup.2 ?_
    by_contra hsilent
    have hend := (h.eq_of_not_mem hsilent).symm.trans (hdone k)
    rw [hplan, upsert_of_vet hvet] at hend
    cases hend
  have hserial := h.runAll_finishers hreach (fun k => lastCallDecides_plan _ _) hdone
  obtain ⟨later, hlater, hanswer⟩ := Plan.exists_run_of_runAll hreach hserial hmade
  rw [← hanswer, hplan, Plan.run_map, run_upsert hlater.reachable, hvet]

/-- Requests that are served side by side, whoever made them, are answered as if they were served
one after the other in the order of their last calls of the store, and leave the same objects.
Requests that call nothing may stand anywhere in this order. No update misses the name that it is to
replace, and every upsert that is not refused succeeds. -/
theorem interleaved_eq_serveAll
    (h : Interleaved (fun k => s.plan (requests k)) store events plans store')
    (hreach : store.outage = none) :
    (∀ event ∈ events, event.call.kind = .update → ∃ a, event.answer = .ok a) ∧
    ∀ answers : ι → Reply σ, (∀ k, plans k = .done (answers k)) →
      (∀ k id payload, requests k = .upsert id payload → s.accepts id = true →
        s.Storable payload →
          ∀ world, answers k world = (.document (.ok (upsertAnswer id)), world)) ∧
      ∀ order : List ι, order.filter (· ∈ finishers events) = finishers events →
        ∀ world, s.serveAll (order.map requests) (store, world) =
          ((respondAll (order.map fun k => (requests k, answers k)) world).1, store',
            (respondAll (order.map fun k => (requests k, answers k)) world).2) := by
  have hplans (k : ι) := lastCallDecides_plan (s := s) (requests k) store
  refine ⟨h.exists_eq_ok_of_update hreach hplans, fun answers hdone => ⟨?_, ?_⟩⟩
  · intro k id payload hrequest hid hpayload world
    exact answer_of_interleaved_upsert h hreach hdone hrequest hid hpayload world
  · intro order horder world
    have hserial := h.runAll_finishers hreach hplans hdone
    rw [← horder] at hserial
    refine serveAll_of_runAll (Plan.runAll_of_filter (fun k _ hk => ?_) hserial) world
    have hsilent : k ∉ events.map StoreEvent.maker := by
      rw [decide_eq_false_iff_not] at hk
      exact fun hmade => hk (List.mem_dedup.2 hmade)
    exact (h.eq_of_not_mem hsilent).symm.trans (hdone k)

end Requests

section Race

/-- Two profiles of one name are stored and the name is asked for, all at the same time. -/
def racingRequests : Fin 3 → Request Tokens
  | 0 => .upsert "people" strangerProfile
  | 1 => .upsert "people" bareProfile
  | 2 => .get "people"

def racingReplies : Fin 3 → Reply Tokens
  | 0 => fun world => (.document (.ok (upsertAnswer "people")), world)
  | 1 => fun world => (.document (.ok (upsertAnswer "people")), world)
  | 2 => fun world => (.document (.ok (Store.withId "people" (.object []))), world)

/-- Both upserts are told that the name is not there, so both create it. The profile that was there
in between is the one that is fetched, and the one that was created last stays. -/
theorem serveAll_racingRequests : ∃ s events plans store, create {} .builtins = .ok s ∧
    Interleaved (fun k => s.plan (racingRequests k)) .empty events plans store ∧
    events.map StoreEvent.maker = [0, 1, 1, 2, 0] ∧ (∀ k, plans k = .done (racingReplies k)) ∧
    s.serveAll ([1, 2, 0].map racingRequests) (.empty, Tokens.empty) =
      ([(racingRequests 1, .document (.ok (upsertAnswer "people"))),
        (racingRequests 2, .document (.ok (Store.withId "people" (.object [])))),
        (racingRequests 0, .document (.ok (upsertAnswer "people")))], store, Tokens.empty) ∧
    store.find? "people" = some (Store.withId "people" (RuleHead.checkDocument "absent" "$")) := by
  obtain ⟨s, hcreate, hpeople, -, hregistry⟩ := exists_create_default
  have hget : s.get "people" =
      .call (.get "people") fun answer => .done (answer.mapError .ofStore) := by
    rw [get, if_pos hpeople]
  have hstart0 : s.plan (racingRequests 0) = _ :=
    congrArg (Plan.map _) (upsert_of_vet (vet_strangerProfile hpeople hregistry))
  have hstart1 : s.plan (racingRequests 1) = _ :=
    congrArg (Plan.map _) (upsert_of_vet (vet_bareProfile hpeople))
  have hstart2 : s.plan (racingRequests 2) = _ := congrArg (Plan.map _) hget
  obtain ⟨events, plans, store, hrun, hmakers, hdone, hfind⟩ : ∃ events plans store,
      Interleaved (fun k => s.plan (racingRequests k)) .empty events plans store ∧
      events.map StoreEvent.maker = [0, 1, 1, 2, 0] ∧ (∀ k, plans k = .done (racingReplies k)) ∧
      store.find? "people" =
        some (Store.withId "people" (RuleHead.checkDocument "absent" "$")) := by
    refine ⟨_, _, _, .cons (k := 0) hstart0 (.cons (k := 1) hstart1 (.cons (k := 1) rfl
      (.cons (k := 2) hstart2 (.cons (k := 0) rfl (.nil _ _))))), rfl, fun k => ?_, rfl⟩
    obtain ⟨_ | _ | _ | _, hk⟩ := k
    · rfl
    · rfl
    · rfl
    · omega
  obtain ⟨-, hanswered⟩ := interleaved_eq_serveAll hrun rfl
  obtain ⟨-, hserial⟩ := hanswered racingReplies hdone
  have horder : [1, 2, 0].filter (· ∈ finishers events) = finishers events := by
    rw [finishers, hmakers]
    decide
  exact ⟨s, events, plans, store, hcreate, hrun, hmakers, hdone,
    hserial [1, 2, 0] horder Tokens.empty, hfind⟩

end Race

end Service

end JsonRules
