import JsonRules.Except
import JsonRules.Json.Reader

namespace JsonRules

namespace Json

mutual

/-- Every object in the document has its keys in increasing order. -/
def Ordered : Json → Prop
  | array items => OrderedItems items
  | object members => Members.Sorted members ∧ OrderedMembers members
  | _ => True

def OrderedItems : List Json → Prop
  | [] => True
  | v :: rest => Ordered v ∧ OrderedItems rest

def OrderedMembers : List (String × Json) → Prop
  | [] => True
  | (_, v) :: rest => Ordered v ∧ OrderedMembers rest

end

theorem orderedItems_iff {items : List Json} : OrderedItems items ↔ ∀ v ∈ items, v.Ordered := by
  induction items with
  | nil => simp [OrderedItems]
  | cons v rest ih => rw [OrderedItems, ih, List.forall_mem_cons]

theorem orderedMembers_iff {members : List (String × Json)} :
    OrderedMembers members ↔ ∀ m ∈ members, m.2.Ordered := by
  induction members with
  | nil => simp [OrderedMembers]
  | cons m rest ih => rw [OrderedMembers, ih, List.forall_mem_cons]

theorem Ordered.of_mem_items {items : List Json} (h : (array items).Ordered) {v : Json}
    (hv : v ∈ items) : v.Ordered := orderedItems_iff.1 h v hv

theorem Ordered.of_mem_members {members : List (String × Json)} (h : (object members).Ordered)
    {entry : String × Json} (hentry : entry ∈ members) : entry.2.Ordered :=
  orderedMembers_iff.1 h.2 entry hentry

theorem ordered_insert {members : List (String × Json)} (h : (object members).Ordered)
    (key : String) {value : Json} (hvalue : value.Ordered) :
    (object (Members.insert key value members)).Ordered := by
  refine ⟨Members.sorted_insert h.1, orderedMembers_iff.2 fun entry hentry => ?_⟩
  obtain rfl | hold := Members.mem_of_mem_insert _ _ _ hentry
  · exact hvalue
  · exact h.of_mem_members hold

theorem ordered_ofMembers {members : List (String × Json)} (h : ∀ m ∈ members, m.2.Ordered) :
    (ofMembers members).Ordered := by
  have hset : ∀ set : SortedMembers Json, (object set.members).Ordered →
      (object (members.foldl (fun m kv => m.insert kv.1 kv.2) set).members).Ordered := by
    induction members with
    | nil => exact fun _ hset => hset
    | cons m rest ih =>
      rw [List.forall_mem_cons] at h
      exact fun set hset => ih h.2 _ (ordered_insert hset m.1 h.1)
  exact hset .empty ⟨.nil, trivial⟩

section Reading

variable {read : List Char → ReadResult Json} {P : Json → Prop}

theorem forall_mem_of_readItems (hread : ∀ s v r, read s = .ok (v, r) → P v) {steps : Nat}
    {s r : List Char} {items : List Json} (h : readItems read steps s = .ok (items, r)) :
    ∀ v ∈ items, P v := by
  induction steps generalizing s r items with
  | zero => cases h
  | succ steps ih =>
    rw [readItems, Except.bind_eq_ok_iff] at h
    obtain ⟨⟨item, after⟩, hitem, h⟩ := h
    dsimp only at h
    split at h
    · cases h
    · cases h
      simpa using hread _ _ _ hitem
    · split at h
      · cases h
      · cases h
      · rw [Except.bind_eq_ok_iff] at h
        obtain ⟨⟨others, last⟩, hothers, h⟩ := h
        cases h
        exact List.forall_mem_cons.2 ⟨hread _ _ _ hitem, ih hothers⟩
    · cases h

theorem forall_mem_of_readMembers (hread : ∀ s v r, read s = .ok (v, r) → P v) {steps : Nat}
    {s r : List Char} {members : List (String × Json)}
    (h : readMembers read steps s = .ok (members, r)) : ∀ m ∈ members, P m.2 := by
  induction steps generalizing s r members with
  | zero => cases h
  | succ steps ih =>
    unfold readMembers at h
    split at h
    · rw [Except.bind_eq_ok_iff] at h
      obtain ⟨⟨key, after⟩, -, h⟩ := h
      dsimp only at h
      split at h
      · cases h
      · rw [Except.bind_eq_ok_iff] at h
        obtain ⟨⟨value, rest⟩, hvalue, h⟩ := h
        dsimp only at h
        split at h
        · cases h
        · cases h
          simpa using hread _ _ _ hvalue
        · split at h
          · cases h
          · cases h
          · rw [Except.bind_eq_ok_iff] at h
            obtain ⟨⟨others, last⟩, hothers, h⟩ := h
            cases h
            exact List.forall_mem_cons.2 ⟨hread _ _ _ hvalue, ih hothers⟩
        · cases h
      · cases h
    · cases h

theorem ordered_of_map {α : Type} {x : Except TextError α} {f : α → Json × List Char} {v : Json}
    {r : List Char} (h : x.map f = .ok (v, r)) (hf : ∀ a, x = .ok a → (f a).1.Ordered) :
    v.Ordered := by
  obtain ⟨a, ha, heq⟩ := Except.map_eq_ok_iff.1 h
  have hordered := hf a ha
  rwa [heq] at hordered

/-- Whatever is read is ordered: the members of an object are put in their places one by one. -/
theorem ordered_of_readValue {steps depth : Nat} {s r : List Char} {v : Json}
    (h : readValue steps depth s = .ok (v, r)) : v.Ordered := by
  have hread (deep : Nat) (hdeep : deep < depth) (s : List Char) (v : Json) (r : List Char)
      (h : readValue steps deep s = .ok (v, r)) : v.Ordered := ordered_of_readValue h
  unfold readValue at h
  split at h
  case h_1 => cases h
  case h_2 | h_3 | h_4 | h_5 | h_6 => exact ordered_of_map h fun _ _ => trivial
  case h_7 =>
    split at h
    · cases h
    · split at h
      · cases h
      · cases h
        trivial
      · refine ordered_of_map h fun items hitems => ?_
        exact orderedItems_iff.2 (forall_mem_of_readItems (hread _ (Nat.lt_succ_self _)) hitems)
  case h_8 =>
    split at h
    · cases h
    · split at h
      · cases h
      · cases h
        exact ⟨.nil, trivial⟩
      · refine ordered_of_map h fun members hmembers => ?_
        exact ordered_ofMembers (forall_mem_of_readMembers (hread _ (Nat.lt_succ_self _)) hmembers)
  case h_9 =>
    split at h
    · exact ordered_of_map h fun _ _ => trivial
    · cases h
termination_by depth

end Reading

end Json

/-- A document with the keys of all its objects in order. -/
structure Document where
  json : Json
  ordered : json.Ordered

def Document.ofText (text : String) : Except Json.TextError Document :=
  match h : Json.readValue text.length Json.depthLimit text.toList with
  | .ok (v, rest) =>
    match Json.skipSpace rest with
    | [] => .ok ⟨v, Json.ordered_of_readValue h⟩
    | s => .error (Json.TextFault.trailingText.at s)
  | .error e => .error e

end JsonRules
