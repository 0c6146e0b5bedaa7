import JsonRules.Json.Document
import JsonRules.Profile.Store
import Mathlib.Data.List.Dedup

namespace JsonRules

namespace Store

section Names

theorem withoutId_withId (id : String) (v : Json) : withoutId (withId id v) = withoutId v := by
  cases v with
  | object members => exact congrArg Json.object Members.erase_insert
  | _ => rfl

theorem withoutId_withoutId (v : Json) : withoutId (withoutId v) = withoutId v := by
  cases v with
  | object members =>
    exact congrArg Json.object (Members.erase_of_not_mem (Members.not_mem_keys_erase _ _))
  | _ => rfl

theorem withId_withoutId (id : String) (v : Document) :
    withId id (withoutId v.json) = withId id v.json := by
  obtain ⟨v, h⟩ := v
  cases v with
  | object members => exact congrArg Json.object (Members.insert_erase h.1)
  | _ => rfl

/-- The object is the payload, except for its name. -/
structure IsNamed (id : String) (payload object : Json) : Prop where
  name : object.get? idField = some (.string id)
  others : ∀ key, key ≠ idField → object.get? key = payload.get? key
  eq_withId : ∀ document : Document, document.json = payload → object = withId id payload

theorem isNamed_withId (id : String) (members : List (String × Json)) :
    IsNamed id (.object members) (withId id (withoutId (.object members))) where
  name := by
    rw [withoutId, withId, Json.get?, Members.lookup_insert, if_pos rfl]
  others := by
    intro key hkey
    rw [withoutId, withId, Json.get?, Members.lookup_insert, if_neg hkey, Members.lookup_erase,
      if_neg hkey, Json.get?]
  eq_withId := by
    intro document heq
    rw [← heq, withId_withoutId]

end Names

theorem perform_of_reachable {s : Store} (h : s.outage = none) (c : StoreCall) :
    s.perform c = s.answer c := by
  rw [perform, failure?, h]
  rfl

theorem find?_put (s : Store) (id other : String) (object : Json) :
    (s.put id object).find? other = if other = id then some (withId id object) else s.find? other :=
  SortedMembers.lookup_insert id other _ s.objects

/-- The store can be reached and has under each name what was stored there last. -/
structure Keeps (stored : List (String × Json)) (s : Store) : Prop where
  reachable : s.outage = none
  isObject : ∀ entry ∈ stored, ∃ members, entry.2 = .object members
  found : ∀ id, s.find? id =
    (stored.reverse.lookup id).map fun payload => withId id (withoutId payload)

theorem keeps_empty : empty.Keeps [] := ⟨rfl, by simp, fun _ => rfl⟩

theorem Keeps.put {stored : List (String × Json)} {s : Store} (h : s.Keeps stored) (id : String)
    (members : List (String × Json)) :
    (s.put id (withoutId (.object members))).Keeps (stored ++ [(id, .object members)]) where
  reachable := h.reachable
  isObject := by
    intro entry hentry
    obtain hentry | hentry := List.mem_append.1 hentry
    · exact h.isObject entry hentry
    · exact ⟨members, congrArg Prod.snd (List.mem_singleton.1 hentry)⟩
  found := by
    intro other
    rw [find?_put, List.reverse_concat, Members.lookup_cons_eq_ite]
    split
    · next heq => rw [heq, Option.map_some]
    · exact h.found other

theorem Keeps.find?_of_lookup {stored : List (String × Json)} {s : Store} (h : s.Keeps stored)
    {id : String} {payload : Json} (hpayload : stored.reverse.lookup id = some payload) :
    ∃ members, payload = .object members ∧
      s.find? id = some (withId id (withoutId (.object members))) := by
  obtain ⟨before, after, hsplit, -⟩ := List.lookup_eq_some_iff.1 hpayload
  have hentry : (id, payload) ∈ stored.reverse := by simp [hsplit]
  obtain ⟨members, hmembers⟩ := h.isObject _ (List.mem_reverse.1 hentry)
  dsimp only at hmembers
  subst hmembers
  exact ⟨members, rfl, by rw [h.found, hpayload, Option.map_some]⟩

/-- The store has as many objects as there are names that were stored. -/
theorem Keeps.size_eq {stored : List (String × Json)} {s : Store} (h : s.Keeps stored) :
    s.size = (stored.map Prod.fst).dedup.length := by
  have hkeys : s.size = (Members.keys s.objects.members).length := (List.length_map _).symm
  -- neither list of names repeats one, so it is enough that they have the same names
  have hsame : ∀ id, id ∈ Members.keys s.objects.members ↔ id ∈ (stored.map Prod.fst).dedup := by
    intro id
    have hfound : s.objects.members.lookup id = _ := h.found id
    rw [Members.mem_keys_iff_lookup, hfound, Option.isSome_map, ← Members.mem_keys_iff_lookup,
      Members.keys, List.map_reverse, List.mem_reverse, List.mem_dedup]
  have hnodup := s.objects.sorted.nodup_keys
  have hperm := (List.perm_ext_iff_of_nodup hnodup (List.nodup_dedup _)).2 hsame
  rw [hkeys, hperm.length_eq]

end Store

end JsonRules
