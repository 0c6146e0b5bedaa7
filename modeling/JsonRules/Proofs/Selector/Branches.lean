import JsonRules.Proofs.Selector.Reading
import JsonRules.Selector.Locate

namespace JsonRules

/-- A container with nothing in it to fan out over. -/
def Json.IsHollow (v : Json) : Prop := v = .array [] ∨ v = .object []

namespace Segment

inductive Leads : Segment → Json → Json → Prop
  | key {k : String} {members : List (String × Json)} {v : Json} :
      members.lookup k = some v → Leads (.key k) (.object members) v
  | index {n : Nat} {items : List Json} {v : Json} :
      items[n]? = some v → Leads (.index n) (.array items) v
  | item {items : List Json} {v : Json} : v ∈ items → Leads .wildcard (.array items) v
  | member {k : String} {members : List (String × Json)} {v : Json} :
      (k, v) ∈ members → Leads .wildcard (.object members) v

theorem mem_children_iff {segment : Segment} {v w : Json} :
    w ∈ segment.children v ↔ segment.Leads v w := by
  constructor
  · intro h
    cases segment <;> cases v <;> simp only [children, Option.mem_toList, List.mem_map,
      List.not_mem_nil] at h
    case key.object => exact .key h
    case index.array => exact .index h
    case wildcard.array => exact .item h
    case wildcard.object =>
      obtain ⟨⟨k, v⟩, hmember, rfl⟩ := h
      exact .member hmember
  · intro h
    cases h with
    | key hlookup => exact Option.mem_toList.2 hlookup
    | index hitem => exact Option.mem_toList.2 hitem
    | item hitem => exact hitem
    | member hmember => exact List.mem_map_of_mem hmember

theorem exists_leads_iff {segment : Segment} {v : Json} :
    (∃ w, segment.Leads v w) ↔ segment.children v ≠ [] := by
  simp only [ne_eq, List.eq_nil_iff_forall_not_mem, not_forall, not_not, mem_children_iff]

theorem not_leads_of_isHollow {v w : Json} (h : v.IsHollow) : ¬ Leads .wildcard v w := by
  intro hleads
  obtain rfl | rfl := h
  · cases hleads with
    | item hitem => exact List.not_mem_nil hitem
  · cases hleads with
    | member hmember => exact List.not_mem_nil hmember

/-- A segment fits a value from which it leads on, and a wildcard fits a container in any case. -/
theorem fits_iff {segment : Segment} {v : Json} :
    segment.fits v = true ↔ (∃ w, segment.Leads v w) ∨ segment = .wildcard ∧ v.IsHollow := by
  rw [exists_leads_iff]
  cases segment with
  | key k => simp [fits]
  | index n => simp [fits]
  | wildcard => cases v <;> simp [fits, children, Json.IsHollow, ne_or_eq]

end Segment

inductive Reaches : List Segment → Json → Json → Prop
  | here {v : Json} : Reaches [] v v
  | step {segment : Segment} {rest : List Segment} {v w u : Json} :
      segment.Leads v w → Reaches rest w u → Reaches (segment :: rest) v u

/-- Wherever the path is cut in two, each value that the first part leads to leads through the
second part to some value. -/
def EveryBranchReaches (path : List Segment) (v : Json) : Prop :=
  ∀ before after, path = before ++ after → ∀ w, Reaches before v w → ∃ u, Reaches after w u

section Paths

variable {segment : Segment} {rest : List Segment} {v u : Json}

theorem reaches_nil_iff : Reaches [] v u ↔ u = v := by
  constructor
  · rintro ⟨⟩
    rfl
  · rintro rfl
    exact .here

theorem reaches_cons_iff :
    Reaches (segment :: rest) v u ↔ ∃ w, segment.Leads v w ∧ Reaches rest w u := by
  constructor
  · intro h
    cases h with
    | step hleads hrest => exact ⟨_, hleads, hrest⟩
  · rintro ⟨w, hleads, hrest⟩
    exact .step hleads hrest

theorem reaches_append_iff {before after : List Segment} :
    Reaches (before ++ after) v u ↔ ∃ w, Reaches before v w ∧ Reaches after w u := by
  induction before generalizing v with
  | nil => simp only [List.nil_append, reaches_nil_iff, exists_eq_left]
  | cons first before ih =>
    simp only [List.cons_append, reaches_cons_iff, ih]
    constructor
    · rintro ⟨x, hleads, w, hbefore, hafter⟩
      exact ⟨w, ⟨x, hleads, hbefore⟩, hafter⟩
    · rintro ⟨w, ⟨x, hleads, hbefore⟩, hafter⟩
      exact ⟨x, hleads, w, hbefore, hafter⟩

/-- If the path always leads on by one segment, then it leads on to its end. -/
theorem everyBranchReaches_of_leads {path : List Segment}
    (h : ∀ before segment after, path = before ++ segment :: after →
      ∀ w, Reaches before v w → ∃ u, segment.Leads w u) :
    EveryBranchReaches path v := by
  intro before after hsplit w hw
  induction after generalizing before w with
  | nil => exact ⟨w, .here⟩
  | cons segment after ih =>
    obtain ⟨u, hleads⟩ := h before segment after hsplit w hw
    have hu : Reaches (before ++ [segment]) v u :=
      reaches_append_iff.2 ⟨w, hw, .step hleads .here⟩
    obtain ⟨x, hx⟩ := ih (before ++ [segment]) (by rw [hsplit, List.append_cons]) u hu
    exact ⟨x, .step hleads hx⟩

theorem EveryBranchReaches.exists_leads {path before after : List Segment}
    (h : EveryBranchReaches path v) (hsplit : path = before ++ segment :: after)
    (hu : Reaches before v u) : ∃ w, segment.Leads u w := by
  obtain ⟨x, hx⟩ := h before (segment :: after) hsplit u hu
  obtain ⟨w, hleads, -⟩ := reaches_cons_iff.1 hx
  exact ⟨w, hleads⟩

/-- At each place of the path the next segment fits all that was reached so far. -/
def FitsThroughout (path : List Segment) (v : Json) : Prop :=
  ∀ before segment after, path = before ++ segment :: after →
    ∀ w, Reaches before v w → segment.fits w = true

theorem fitsThroughout_nil : FitsThroughout [] v := by
  intro before segment after h
  simp at h

theorem fitsThroughout_cons_iff : FitsThroughout (segment :: rest) v ↔
    segment.fits v = true ∧ ∀ w, segment.Leads v w → FitsThroughout rest w := by
  constructor
  · intro h
    refine ⟨h [] segment rest rfl v .here, ?_⟩
    rintro w hleads before next after rfl x hx
    exact h (segment :: before) next after rfl x (.step hleads hx)
  · rintro ⟨hfits, hrest⟩ before next after hsplit w hw
    -- the place is either the first one, or it is in the rest of the path
    cases before with
    | nil =>
      cases hsplit
      rwa [reaches_nil_iff.1 hw]
    | cons first before =>
      cases hsplit
      obtain ⟨x, hleads, hx⟩ := reaches_cons_iff.1 hw
      exact hrest x hleads before next after rfl w hx

end Paths

namespace Selector

section Follow

variable {path : List Segment} {values : List Json} {complete : Bool}

theorem follow_cons_of_dead {segment : Segment} {rest : List Segment}
    (h : values.flatMap segment.children = []) :
    follow (segment :: rest) values complete = ⟨[], false⟩ := by
  rw [follow]
  exact if_pos (List.isEmpty_iff.2 h)

theorem follow_cons_of_alive {segment : Segment} {rest : List Segment}
    (h : values.flatMap segment.children ≠ []) :
    follow (segment :: rest) values complete =
      follow rest (values.flatMap segment.children) (complete && values.all segment.fits) := by
  rw [follow]
  exact if_neg (mt List.isEmpty_iff.1 h)

theorem mem_flatMap_children_iff {segment : Segment} {w : Json} :
    w ∈ values.flatMap segment.children ↔ ∃ v ∈ values, segment.Leads v w := by
  simp only [List.mem_flatMap, Segment.mem_children_iff]

theorem mem_values_follow_iff {u : Json} :
    u ∈ (follow path values complete).values ↔ ∃ v ∈ values, Reaches path v u := by
  induction path generalizing values complete with
  | nil => simp only [follow, reaches_nil_iff, exists_eq_right']
  | cons segment rest ih =>
    have hstep : (∃ w ∈ values.flatMap segment.children, Reaches rest w u) ↔
        ∃ v ∈ values, Reaches (segment :: rest) v u := by
      simp only [mem_flatMap_children_iff, reaches_cons_iff]
      constructor
      · rintro ⟨w, ⟨v, hv, hleads⟩, hrest⟩
        exact ⟨v, hv, w, hleads, hrest⟩
      · rintro ⟨v, hv, w, hleads, hrest⟩
        exact ⟨w, ⟨v, hv, hleads⟩, hrest⟩
    by_cases hdead : values.flatMap segment.children = []
    · rw [follow_cons_of_dead hdead, ← hstep, hdead]
      simp
    · rw [follow_cons_of_alive hdead, ih, hstep]

/-- The flag says that something was reached and that every segment fitted everything on the way. -/
theorem complete_follow_iff (hvalues : values ≠ []) :
    (follow path values complete).complete = true ↔
      complete = true ∧ (∃ v ∈ values, ∃ u, Reaches path v u) ∧
        ∀ v ∈ values, FitsThroughout path v := by
  induction path generalizing values complete with
  | nil =>
    obtain ⟨v, hv⟩ := List.exists_mem_of_ne_nil values hvalues
    have hreached : ∃ v ∈ values, ∃ u, Reaches [] v u := ⟨v, hv, v, .here⟩
    simp only [follow, hreached, fitsThroughout_nil, implies_true, and_true]
  | cons segment rest ih =>
    by_cases hdead : values.flatMap segment.children = []
    · rw [follow_cons_of_dead hdead]
      constructor
      · rintro ⟨⟩
      · rintro ⟨-, ⟨v, hv, u, hreaches⟩, -⟩
        obtain ⟨w, hleads, -⟩ := reaches_cons_iff.1 hreaches
        have hw := mem_flatMap_children_iff.2 ⟨v, hv, hleads⟩
        rw [hdead] at hw
        cases hw
    · rw [follow_cons_of_alive hdead, ih hdead, Bool.and_eq_true, List.all_eq_true]
      simp only [mem_flatMap_children_iff, reaches_cons_iff, fitsThroughout_cons_iff]
      constructor
      · rintro ⟨⟨hcomplete, hfits⟩, ⟨w, ⟨v, hv, hleads⟩, u, hu⟩, hrest⟩
        refine ⟨hcomplete, ⟨v, hv, u, w, hleads, hu⟩, fun v hv => ⟨hfits v hv, ?_⟩⟩
        intro w hleads
        exact hrest w ⟨v, hv, hleads⟩
      · rintro ⟨hcomplete, ⟨v, hv, u, w, hleads, hu⟩, hall⟩
        refine ⟨⟨hcomplete, fun v hv => (hall v hv).1⟩, ⟨w, ⟨v, hv, hleads⟩, u, hu⟩, ?_⟩
        rintro w ⟨v, hv, hleads⟩
        exact (hall v hv).2 w hleads

end Follow

section Locate

variable {s : Selector} {document : Json}

theorem mem_values_locate_iff {v : Json} :
    v ∈ (s.locate document).values ↔ Reaches s.segments document v := by
  rw [locate, mem_values_follow_iff]
  simp only [List.mem_singleton, exists_eq_left]

theorem complete_locate_iff : (s.locate document).complete = true ↔
    (∃ v, Reaches s.segments document v) ∧ FitsThroughout s.segments document := by
  rw [locate, complete_follow_iff (List.cons_ne_nil _ _)]
  simp only [List.mem_singleton, exists_eq_left, forall_eq, true_and]

/-- A resolution is complete if it found something and each segment led on from all that was reached
before it, where a wildcard may stop at a container without anything in it. So it is complete if
every branch reaches a value, and the converse holds but for such containers. -/
theorem locate_complete_iff_branches_lead_on (s : Selector) (document : Json) :
    (∀ v, v ∈ (s.locate document).values ↔ Reaches s.segments document v) ∧
    ((s.locate document).complete = true ↔
      (∃ v, Reaches s.segments document v) ∧
        ∀ before segment after, s.segments = before ++ segment :: after →
          ∀ v, Reaches before document v →
            (∃ w, segment.Leads v w) ∨ segment = .wildcard ∧ v.IsHollow) ∧
    (EveryBranchReaches s.segments document ↔
      (s.locate document).complete = true ∧
        ∀ before after, s.segments = before ++ .wildcard :: after →
          ∀ v, Reaches before document v → ¬ v.IsHollow) := by
  have hcomplete : (s.locate document).complete = true ↔ _ := complete_locate_iff
  simp only [FitsThroughout, Segment.fits_iff] at hcomplete
  refine ⟨fun v => mem_values_locate_iff, hcomplete, ?_⟩
  rw [hcomplete]
  constructor
  · intro h
    refine ⟨⟨h [] s.segments rfl document .here, ?_⟩, ?_⟩
    · intro before segment after hsplit v hv
      exact .inl (h.exists_leads hsplit hv)
    · intro before after hsplit v hv hhollow
      obtain ⟨w, hleads⟩ := h.exists_leads hsplit hv
      exact Segment.not_leads_of_isHollow hhollow hleads
  · rintro ⟨⟨-, hleads⟩, hfull⟩
    refine everyBranchReaches_of_leads fun before segment after hsplit v hv => ?_
    obtain hon | ⟨rfl, hhollow⟩ := hleads before segment after hsplit v hv
    · exact hon
    · exact absurd hhollow (hfull before after hsplit v hv)

/-- One of the two branches ends in an empty array, and the resolution is complete all the same. -/
theorem locate_complete_of_dead_branch :
    ∃ s, ofText "$[*][*]" = .ok s ∧
      (s.locate (.array [.array [], .array [.null]])).complete = true ∧
      Reaches [.wildcard] (.array [.array [], .array [.null]]) (.array []) ∧
      (∀ v, ¬ Reaches [.wildcard] (.array []) v) ∧
      ¬ EveryBranchReaches s.segments (.array [.array [], .array [.null]]) := by
  have hread : ofText "$[*][*]" = .ok ⟨"$[*][*]", [.wildcard, .wildcard]⟩ := by decide +kernel
  have hreaches : Reaches [.wildcard] (.array [.array [], .array [.null]]) (.array []) :=
    .step (.item List.mem_cons_self) .here
  have hdead : ∀ v, ¬ Reaches [.wildcard] (.array []) v := by
    intro v hv
    obtain ⟨w, hleads, -⟩ := reaches_cons_iff.1 hv
    exact Segment.not_leads_of_isHollow (.inl rfl) hleads
  refine ⟨_, hread, rfl, hreaches, hdead, fun hevery => ?_⟩
  obtain ⟨v, hv⟩ := hevery [.wildcard] [.wildcard] rfl _ hreaches
  exact hdead v hv

end Locate

end Selector

end JsonRules
