import JsonRules.Json.Document
import JsonRules.Proofs.Selector.Branches
import Mathlib.Data.String.Basic

namespace JsonRules

def Members.inKeyOrder {α : Type} (m : Members α) : Members α :=
  m.mergeSort fun a b => decide (a.1 ≤ b.1)

theorem SortedMembers.inKeyOrder_members {α : Type} (m : SortedMembers α) :
    m.members.inKeyOrder = m.members := by
  have hpairs : m.members.Pairwise fun a b => a.1 < b.1 := List.pairwise_map.1 m.sorted
  exact List.mergeSort_of_pairwise (hpairs.imp fun hlt => decide_eq_true hlt.le)

namespace Json

/-- The values at the ends of a path, depth first. A key leads to that member of an object and an
index to that item of an array, if there is one. A wildcard leads to all items of an array, or to
all members of an object by increasing keys. -/
def expand : List Segment → Json → List Json
  | [], v => [v]
  | .key k :: rest, object members =>
    match members.lookup k with
    | some v => expand rest v
    | none => []
  | .index n :: rest, array items =>
    match items[n]? with
    | some v => expand rest v
    | none => []
  | .wildcard :: rest, array items => items.flatMap (expand rest)
  | .wildcard :: rest, object members =>
    (Members.inKeyOrder members).flatMap fun m => expand rest m.2
  | _ :: _, _ => []

variable {segment : Segment} {rest : List Segment} {v w : Json}

/-- The parts of an ordered document are ordered. -/
theorem Ordered.of_leads (h : v.Ordered) (hleads : segment.Leads v w) : w.Ordered := by
  cases hleads with
  | key hlookup => exact h.of_mem_members (Members.mem_of_lookup _ _ hlookup)
  | index hitem => exact h.of_mem_items (List.mem_of_getElem? hitem)
  | item hmem => exact h.of_mem_items hmem
  | member hmem => exact h.of_mem_members hmem

end Json

namespace Document

variable (segment : Segment) (rest : List Segment) (v : Document)

def children : List Document :=
  (segment.children v.json).pmap Document.mk fun _ hw =>
    v.ordered.of_leads (Segment.mem_children_iff.1 hw)

theorem map_json_children : (v.children segment).map json = segment.children v.json := by
  simp [children, List.map_pmap]

/-- The expansion goes on from all that the first segment leads to, in the same order. -/
theorem expand_cons :
    v.json.expand (segment :: rest) = (segment.children v.json).flatMap (Json.expand rest) := by
  obtain ⟨v, h⟩ := v
  cases segment with
  | key k =>
    cases v with
    | object members =>
      rw [Json.expand, Segment.children]
      cases members.lookup k <;> simp
    | _ => rfl
  | index n =>
    cases v with
    | array items =>
      rw [Json.expand, Segment.children]
      cases items[n]? <;> simp
    | _ => rfl
  | wildcard =>
    cases v with
    | array items => rfl
    | object members =>
      have hsorted := SortedMembers.inKeyOrder_members ⟨members, h.1⟩
      rw [Json.expand, Segment.children, hsorted, List.flatMap_map]
    | _ => rfl

end Document

/-- A segment that is no wildcard leads from a value to one value if it fits, and nowhere if it does
not. -/
theorem Segment.children_of_ne_wildcard {segment : Segment} (h : segment ≠ .wildcard) (v : Json) :
    segment.children v = [] ∨ segment.fits v = true ∧ ∃ w, segment.children v = [w] := by
  have hone (o : Option Json) :
      o.toList = [] ∨ (!o.toList.isEmpty) = true ∧ ∃ w, o.toList = [w] := by
    cases o <;> simp
  cases segment with
  | key k =>
    cases v with
    | object members => exact hone (members.lookup k)
    | _ => exact .inl rfl
  | index n =>
    cases v with
    | array items => exact hone items[n]?
    | _ => exact .inl rfl
  | wildcard => exact absurd rfl h

namespace Selector

variable {path : List Segment} {complete : Bool}

/-- What is found from several values is what each of them expands to, one after the other. -/
theorem values_follow (documents : List Document) :
    (follow path (documents.map Document.json) complete).values =
      (documents.map Document.json).flatMap (Json.expand path) := by
  -- a step replaces the values by all that the segment leads to, and keeps their expansion
  induction path generalizing documents complete with
  | nil => simp [follow, Json.expand]
  | cons segment rest ih =>
    have hstep : (documents.map Document.json).flatMap (Json.expand (segment :: rest)) =
        ((documents.map Document.json).flatMap segment.children).flatMap (Json.expand rest) := by
      simp only [List.flatMap_assoc, List.flatMap_map, Document.expand_cons]
    rw [hstep]
    by_cases hdead : (documents.map Document.json).flatMap segment.children = []
    · rw [follow_cons_of_dead hdead, hdead, List.flatMap_nil]
    · have hnext : (documents.map Document.json).flatMap segment.children =
          (documents.flatMap (·.children segment)).map Document.json := by
        simp only [List.map_flatMap, List.flatMap_map, Document.map_json_children]
      rw [follow_cons_of_alive hdead, hnext]
      exact ih _

/-- Without a wildcard the values never become more, and the flag tells whether there is one. -/
theorem follow_of_no_wildcard (h : .wildcard ∉ path) (v : Json) :
    (follow path [v] complete).values.length ≤ 1 ∧
      ((follow path [v] complete).complete = true ↔
        complete = true ∧ (follow path [v] complete).values.length = 1) := by
  induction path generalizing v complete with
  | nil => simp [follow]
  | cons segment rest ih =>
    rw [List.mem_cons, not_or] at h
    have hnext : [v].flatMap segment.children = segment.children v := List.flatMap_singleton ..
    obtain hdead | ⟨hfits, w, hw⟩ := Segment.children_of_ne_wildcard (Ne.symm h.1) v
    · rw [follow_cons_of_dead (hnext.trans hdead)]
      simp
    · rw [follow_cons_of_alive (by simp [hw]), hnext, hw]
      simpa [hfits] using ih h.2 w

theorem values_locate_ne_nil {s : Selector} {document : Json}
    (h : (s.locate document).complete = true) : (s.locate document).values ≠ [] := by
  obtain ⟨⟨v, hv⟩, -⟩ := complete_locate_iff.1 h
  exact List.ne_nil_of_mem (mem_values_locate_iff.2 hv)

/-- A path leads to the values of its expansion, in the same order and as often. A resolution is
complete only if it found something; without a wildcard there is at most one value, and the
resolution is complete if there is one. -/
theorem locate_values_eq_expand (s : Selector) (document : Document) :
    (s.locate document.json).values = document.json.expand s.segments ∧
      ((s.locate document.json).complete = true → (s.locate document.json).values ≠ []) ∧
      (.wildcard ∉ s.segments →
        (s.locate document.json).values.length ≤ 1 ∧
          ((s.locate document.json).complete = true ↔
            (s.locate document.json).values.length = 1)) := by
  refine ⟨?_, values_locate_ne_nil, fun hsegments => ?_⟩
  · have hfollow : (follow s.segments [document.json] true).values = [document.json].flatMap _ :=
      values_follow [document]
    rwa [List.flatMap_singleton] at hfollow
  · have hsingle : (follow s.segments [document.json] true).values.length ≤ 1 ∧ _ :=
      follow_of_no_wildcard hsegments document.json
    rwa [eq_self, true_and] at hsingle

section Shelves

def shelves : Document where
  json := .ofMembers [("b", .array [.string "x"]), ("a", .array [.string "y", .null])]
  ordered := Json.ordered_ofMembers (by simp [Json.Ordered, Json.OrderedItems])

theorem shelves_eq :
    shelves.json = .object [("a", .array [.string "y", .null]), ("b", .array [.string "x"])] := by
  rfl

/-- A wildcard takes the members by their keys, in whatever order they were given; a path without
one leads to the one value there is, or to none. -/
theorem locate_shelves :
    ((⟨"$[*][*]", [.wildcard, .wildcard]⟩ : Selector).locate shelves.json).values =
        [.string "y", .null, .string "x"] ∧
      ((⟨"a[1]", [.key "a", .index 1]⟩ : Selector).locate shelves.json).complete = true ∧
      ((⟨"b[1]", [.key "b", .index 1]⟩ : Selector).locate shelves.json).complete = false := by
  obtain ⟨hall, -⟩ := locate_values_eq_expand ⟨"$[*][*]", [.wildcard, .wildcard]⟩ shelves
  obtain ⟨hone, -, hfound⟩ := locate_values_eq_expand ⟨"a[1]", [.key "a", .index 1]⟩ shelves
  obtain ⟨hnone, -, hmissed⟩ := locate_values_eq_expand ⟨"b[1]", [.key "b", .index 1]⟩ shelves
  refine ⟨?_, ?_, ?_⟩
  · rw [hall, Document.expand_cons, shelves_eq]
    rfl
  · rw [(hfound (by decide)).2, hone, shelves_eq]
    rfl
  · rw [← Bool.not_eq_true, (hmissed (by decide)).2, hnone, shelves_eq]
    decide

end Shelves

end Selector

end JsonRules
