import JsonRules.Proofs.Pattern.Anchoring
import JsonRules.Proofs.Profile.Requests

namespace JsonRules

namespace Pattern

theorem ofText_eq_ok_iff {text : String} {p : Pattern} :
    ofText text = .ok p ↔ ∃ t, Tree.ofText text = .ok t ∧ (Shape.ofTree t).fits = true ∧
      p = ⟨text, t.toRegex⟩ := by
  unfold ofText
  cases Tree.ofText text with
  | error fault => exact ⟨nofun, fun ⟨_, h, _⟩ => nomatch h⟩
  | ok t =>
    by_cases hfits : (Shape.ofTree t).fits = true
    · simp only [hfits, if_true]
      constructor
      · rintro ⟨⟩
        exact ⟨t, rfl, hfits, rfl⟩
      · rintro ⟨_, ⟨⟩, -, rfl⟩
        rfl
    · simp only [hfits]
      constructor
      · nofun
      · rintro ⟨_, ⟨⟩, h, -⟩
        exact absurd h hfits

end Pattern

namespace Service

open Pattern (Tree Shape EndsInComment depth depthLimit)

/-- Whatever is asked about a profile of this name, the answer is that it is no name, and the store
is not called. -/
structure Refuses (s : Service) (id : String) : Prop where
  upsert : ∀ payload, s.upsert id payload = .done (.error s.invalidId)
  get : s.get id = .done (.error s.invalidId)
  rules : s.rules id = .done (.error s.invalidId)
  validate : ∀ {σ : Type} (watch : Watch σ) target explain store world,
    s.serve (.validate watch id target explain) (store, world) =
      (.report (.error s.invalidId), store, world)

/-- Whatever is asked about a profile of this name and in whatever state the store is, the answer is
not that it is no name. -/
structure Admits (s : Service) (id : String) : Prop where
  upsert : ∀ payload store, ((s.upsert id payload).run store).1 ≠ .error s.invalidId
  get : ∀ store, ((s.get id).run store).1 ≠ .error s.invalidId
  rules : ∀ store, ((s.rules id).run store).1 ≠ .error s.invalidId
  validate : ∀ {σ : Type} (watch : Watch σ) target explain store world,
    (s.serve (.validate watch id target explain) (store, world)).1 ≠
      .report (.error s.invalidId)

variable {s : Service} {id : String}

theorem refuses_of_not_accepts (h : s.accepts id = false) : s.Refuses id :=
  have hrules : s.rules id = .done (.error s.invalidId) := by simp [rules, h]
  { upsert := fun _ => by simp [upsert, h]
    get := by simp [get, h]
    rules := hrules
    validate := fun _ _ _ _ _ => by simp only [serve, hrules]; rfl }

theorem ofStore_ne_invalidId (e : StoreError) : ServiceError.ofStore e ≠ s.invalidId := by
  cases e <;> nofun

theorem rulesOf_ne_invalidId (payload : Json) : s.rulesOf payload ≠ .error s.invalidId := by
  cases payload with
  | object members =>
    rw [rulesOf]
    split
    · rintro ⟨⟩
    · split <;> rintro ⟨⟩
  | _ => rintro ⟨⟩

theorem run_changed_ne_invalidId (answer : Except StoreError Unit) (store : Store) :
    ((changed id answer).run store).1 ≠ .error s.invalidId := by
  cases answer with
  | ok done => nofun
  | error e => exact fun h => ofStore_ne_invalidId e (Except.error.inj h)

theorem run_rules_ne_invalidId (h : s.accepts id = true) (store : Store) :
    ((s.rules id).run store).1 ≠ .error s.invalidId := by
  rw [rules, if_pos h, Plan.run]
  rcases (store.perform (.get id)).1 with e | object
  · cases e with
    | notFound id =>
      simp only
      split <;> rintro ⟨⟩
    | unavailable reason => rintro ⟨⟩
  · rintro ⟨⟩

theorem validateFetched_ne_invalidId {σ : Type} {fetched : Except ServiceError (Option Json)}
    (h : fetched ≠ .error s.invalidId) (watch : Watch σ) (target : Json) (explain : Bool)
    (world : σ) :
    (s.validateFetched watch fetched target explain world).1 ≠ .error s.invalidId := by
  cases fetched with
  | error e => exact fun heq => h (congrArg _ (Except.error.inj heq))
  | ok rules =>
    rw [validateFetched, validateInline]
    rcases s.engine.validateUntil watch rules target explain world with ⟨e | report, world⟩
    · nofun
    · nofun

theorem admits_of_accepts (h : s.accepts id = true) : s.Admits id where
  upsert payload store := by
    rw [upsert, if_pos h]
    rcases hrules : s.rulesOf payload with e | rules
    · intro h
      exact rulesOf_ne_invalidId payload (hrules.trans (congrArg _ (Except.error.inj h)))
    · rw [Plan.run]
      rcases (store.perform (.has id)).1 with e | _ | _
      · exact fun h => ofStore_ne_invalidId e (Except.error.inj h)
      · exact run_changed_ne_invalidId _ _
      · exact run_changed_ne_invalidId _ _
  get store := by
    rw [get, if_pos h, Plan.run]
    rcases (store.perform (.get id)).1 with e | object
    · exact fun h => ofStore_ne_invalidId e (Except.error.inj h)
    · rintro ⟨⟩
  rules := run_rules_ne_invalidId h
  validate watch target explain store world := fun heq =>
    validateFetched_ne_invalidId (run_rules_ne_invalidId h store) watch target explain world
      (Response.report.inj heq)

theorem create_eq_ok_iff {settings : Settings} {registry : Registry} :
    create settings registry = .ok s ↔
      ∃ p, Pattern.ofText (anchored settings.profilePattern) = .ok p ∧
        s = ⟨settings, ⟨registry, settings.presencePolicy,
          Engine.clampThreshold settings.parallelThreshold⟩, p⟩ := by
  rw [create]
  rcases Pattern.ofText (anchored settings.profilePattern) with message | p
  · exact ⟨nofun, fun ⟨_, h, _⟩ => nomatch h⟩
  · constructor
    · rintro ⟨⟩
      exact ⟨p, rfl, rfl⟩
    · rintro ⟨_, ⟨⟩, rfl⟩
      rfl

/-- The pattern between anchors, for a pattern that can be read alone. -/
theorem ofText_anchored_eq_ok_iff {text : String} {own : Tree} (hown : Tree.ofText text = .ok own)
    {p : Pattern} :
    Pattern.ofText (anchored text) = .ok p ↔
      (¬EndsInComment text ∧ depth text + 2 ≤ depthLimit ∧
        (Shape.ofTree own.anchored).fits = true) ∧
      p = ⟨anchored text, own.anchored.toRegex⟩ := by
  have hanchored (t : Tree) := Tree.ofText_anchored_iff hown t
  rw [Pattern.ofText_eq_ok_iff]
  constructor
  · rintro ⟨t, hread, hfits, rfl⟩
    obtain ⟨hcomment, hdepth, rfl⟩ := (hanchored t).1 hread
    exact ⟨⟨hcomment, hdepth, hfits⟩, rfl⟩
  · rintro ⟨⟨hcomment, hdepth, hfits⟩, rfl⟩
    exact ⟨_, (hanchored _).2 ⟨hcomment, hdepth, rfl⟩, hfits, rfl⟩

/-- With a pattern that can be read alone a service is made unless the pattern ends in a comment, or
is too deep or too large for the anchors, and it admits the names that match from the first
character to the last one and refuses the others. -/
theorem create_admits_whole_matches {settings : Settings} (registry : Registry) {own : Tree}
    (hown : Tree.ofText settings.profilePattern = .ok own) :
    ((∃ s, create settings registry = .ok s) ↔
        ¬EndsInComment settings.profilePattern ∧ depth settings.profilePattern + 2 ≤ depthLimit ∧
          (Shape.ofTree own.anchored).fits = true) ∧
      ∀ s, create settings registry = .ok s → ∀ id,
        (own.MatchesAll id → s.Admits id) ∧ (¬own.MatchesAll id → s.Refuses id) := by
  constructor
  · constructor
    · rintro ⟨s, hs⟩
      obtain ⟨p, hp, -⟩ := create_eq_ok_iff.1 hs
      exact ((ofText_anchored_eq_ok_iff hown).1 hp).1
    · intro hfits
      exact ⟨_, create_eq_ok_iff.2 ⟨_, (ofText_anchored_eq_ok_iff hown).2 ⟨hfits, rfl⟩, rfl⟩⟩
  · intro s hs id
    obtain ⟨p, hp, rfl⟩ := create_eq_ok_iff.1 hs
    obtain ⟨-, rfl⟩ := (ofText_anchored_eq_ok_iff hown).1 hp
    have hmatches := Tree.search_anchored_iff (Tree.ordered_of_ofText hown) id
    constructor
    · exact fun h => admits_of_accepts (hmatches.2 h)
    · exact fun h => refuses_of_not_accepts (Bool.eq_false_iff.2 fun haccepts =>
        h (hmatches.1 haccepts))

/-- A choice is tied to both ends of a name in each of its branches. -/
theorem create_shortNames : ∃ s, create { profilePattern := "a|bc" } .builtins = .ok s ∧
    s.Admits "bc" ∧ s.Refuses "abc" := by
  have hown : Tree.ofText ({ profilePattern := "a|bc" } : Settings).profilePattern =
      .ok (.either (.char (.single 'a')) (.seq (.char (.single 'b')) (.char (.single 'c')))) := rfl
  obtain ⟨hmade, hnames⟩ := create_admits_whole_matches .builtins hown
  have hcomment : ¬EndsInComment "a|bc" := by
    rintro ⟨t, h⟩
    have hnone : (Tree.ofText ("a|bc" ++ ")")).toOption.isNone = true := by decide +kernel
    rw [h] at hnone
    cases hnone
  obtain ⟨s, hs⟩ := hmade.2 ⟨hcomment, by decide +kernel, by decide +kernel⟩
  refine ⟨s, hs, (hnames s hs "bc").1 ?_, (hnames s hs "abc").2 ?_⟩
  · exact ⟨some 'c', .inr ⟨⟨some 'b', ['c']⟩, ⟨'b', rfl, rfl, rfl⟩, 'c', rfl, rfl, rfl⟩⟩
  · rintro ⟨last, ⟨c, hrest, -, -⟩ | ⟨m, ⟨c, hrest, -, hc⟩, -⟩⟩
    · simp at hrest
    · obtain rfl : 'a' = c := (List.cons.inj hrest).1
      exact absurd hc (by decide)

/-- A pattern with a parenthesis that nothing opened may be none alone and one between anchors,
where its branches match parts of a name; and one that ends in a comment is none between them. -/
theorem create_not_as_alone :
    (Pattern.ofText "a)|(b").toOption = none ∧
      (∃ s, create { profilePattern := "a)|(b" } .builtins = .ok s ∧ s.accepts "axyz" = true) ∧
      (Pattern.ofText "(?x)a#").toOption.isSome = true ∧
      ∀ s, create { profilePattern := "(?x)a#" } .builtins ≠ .ok s := by
  refine ⟨by decide +kernel, ?_, by decide +kernel, ?_⟩
  · have hmatches : ((Pattern.ofText (anchored "a)|(b")).toOption.any
        fun p => p.matchesIn "axyz") = true := by decide +kernel
    rcases hread : Pattern.ofText (anchored "a)|(b") with message | p
    · rw [hread] at hmatches
      cases hmatches
    · rw [hread] at hmatches
      exact ⟨_, create_eq_ok_iff.2 ⟨p, hread, rfl⟩, hmatches⟩
  · intro s hs
    obtain ⟨p, hread, -⟩ := create_eq_ok_iff.1 hs
    have hnone : (Pattern.ofText (anchored "(?x)a#")).toOption.isNone = true := by decide +kernel
    rw [hread] at hnone
    cases hnone

end Service

end JsonRules
