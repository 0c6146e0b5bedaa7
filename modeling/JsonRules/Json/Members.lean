namespace JsonRules

abbrev Members (α : Type) := List (String × α)

namespace Members

variable {α : Type}

def insert (key : String) (value : α) : Members α → Members α
  | [] => [(key, value)]
  | (k, v) :: rest =>
    if key < k then (key, value) :: (k, v) :: rest
    else if key = k then (key, value) :: rest
    else (k, v) :: insert key value rest

def erase (key : String) : Members α → Members α :=
  List.filter (·.1 ≠ key)

def keys (m : Members α) : List String := m.map (·.1)

def contains (m : Members α) (key : String) : Bool := (m.lookup key).isSome

def Sorted (m : Members α) : Prop := m.keys.Pairwise (· < ·)

section Lookup

variable (key other : String) (value : α) (m : Members α)

theorem mem_keys_iff_lookup : other ∈ m.keys ↔ (m.lookup other).isSome = true := by
  rw [keys, List.mem_map, List.lookup_isSome_iff]
  simp only [beq_iff_eq, eq_comm (a := other)]

variable {m} in
theorem mem_of_lookup (h : m.lookup key = some value) : (key, value) ∈ m := by
  obtain ⟨before, after, hsplit, -⟩ := List.lookup_eq_some_iff.1 h
  simp [hsplit]

theorem exists_lookup_of_mem_keys (h : key ∈ m.keys) : ∃ value, m.lookup key = some value :=
  Option.isSome_iff_exists.1 ((mem_keys_iff_lookup key m).1 h)

theorem lookup_cons_eq_ite {k : String} {v : α} :
    List.lookup other ((k, v) :: m) = if other = k then some v else m.lookup other := by
  rw [List.lookup_cons]
  split <;> simp_all

theorem erase_cons_self {v : α} : erase key ((key, v) :: m) = erase key m := by
  simp [erase]

theorem erase_cons_of_ne {key k : String} {v : α} {m : Members α} (h : k ≠ key) :
    erase key ((k, v) :: m) = (k, v) :: erase key m := by
  simp [erase, h]

theorem lookup_insert : (m.insert key value).lookup other =
    if other = key then some value else m.lookup other := by
  induction m with
  | nil => rw [insert, lookup_cons_eq_ite]
  | cons entry rest ih =>
    obtain ⟨k, v⟩ := entry
    rw [insert]
    split
    · rw [lookup_cons_eq_ite]
    · split
      · next heq =>
        subst heq
        rw [lookup_cons_eq_ite, lookup_cons_eq_ite]
        split <;> rfl
      · next hne =>
        rw [lookup_cons_eq_ite, ih, lookup_cons_eq_ite]
        by_cases hk : other = k
        · have hother : other ≠ key := fun h => hne (h.symm.trans hk)
          rw [if_pos hk, if_neg hother, if_pos hk]
        · rw [if_neg hk, if_neg hk]

theorem lookup_filter (p : String → Bool) :
    List.lookup other (m.filter (p ·.1)) = if p other then m.lookup other else none := by
  induction m with
  | nil => simp
  | cons entry rest ih =>
    obtain ⟨k, v⟩ := entry
    rw [List.filter_cons, lookup_cons_eq_ite]
    by_cases hother : other = k
    · subst hother
      rw [if_pos rfl]
      split
      · rw [lookup_cons_eq_ite, if_pos rfl]
      · next hp => rw [ih, if_neg hp]
    · rw [if_neg hother]
      split
      · rw [lookup_cons_eq_ite, if_neg hother, ih]
      · exact ih

theorem lookup_erase : (m.erase key).lookup other =
    if other = key then none else m.lookup other := by
  rw [erase, lookup_filter other m (· ≠ key)]
  by_cases hother : other = key <;> simp [hother]

theorem mem_keys_insert : other ∈ (m.insert key value).keys ↔ other = key ∨ other ∈ m.keys := by
  rw [mem_keys_iff_lookup, mem_keys_iff_lookup, lookup_insert]
  by_cases hother : other = key
  · simp [hother]
  · simp [hother]

theorem mem_of_mem_insert {entry : String × α} (h : entry ∈ m.insert key value) :
    entry = (key, value) ∨ entry ∈ m := by
  induction m with
  | nil => exact .inl (List.mem_singleton.1 h)
  | cons first rest ih =>
    obtain ⟨k, v⟩ := first
    rw [insert] at h
    split at h
    · exact List.mem_cons.1 h
    · split at h
      · obtain hfirst | hrest := List.mem_cons.1 h
        · exact .inl hfirst
        · exact .inr (List.mem_cons_of_mem _ hrest)
      · obtain hfirst | hrest := List.mem_cons.1 h
        · exact .inr (hfirst ▸ List.mem_cons_self)
        · exact (ih hrest).imp_right (List.mem_cons_of_mem _)

theorem not_mem_keys_erase : key ∉ (m.erase key).keys := by
  rw [mem_keys_iff_lookup, lookup_erase, if_pos rfl]
  simp

end Lookup

section Order

variable {key : String} {value : α} {m : Members α}

theorem sorted_cons_iff {k : String} {v : α} :
    Sorted ((k, v) :: m) ↔ (∀ other ∈ m.keys, k < other) ∧ m.Sorted :=
  List.pairwise_cons

theorem sorted_insert (h : m.Sorted) : (m.insert key value).Sorted := by
  induction m with
  | nil => exact List.pairwise_singleton _ _
  | cons entry rest ih =>
    obtain ⟨k, v⟩ := entry
    obtain ⟨hfirst, hrest⟩ := sorted_cons_iff.1 h
    rw [insert]
    split
    · next hlt =>
      refine sorted_cons_iff.2 ⟨fun other hother => ?_, h⟩
      obtain rfl | hother := List.mem_cons.1 hother
      · exact hlt
      · exact String.lt_trans hlt (hfirst other hother)
    · next hnot =>
      split
      · next heq => exact sorted_cons_iff.2 ⟨heq ▸ hfirst, hrest⟩
      · next hne =>
        have hlt : k < key := Std.lt_of_le_of_ne (String.not_lt.1 hnot) (Ne.symm hne)
        refine sorted_cons_iff.2 ⟨fun other hother => ?_, ih hrest⟩
        obtain rfl | hother := (mem_keys_insert key other value rest).1 hother
        · exact hlt
        · exact hfirst other hother

theorem Sorted.nodup_keys (h : m.Sorted) : m.keys.Nodup :=
  List.Pairwise.imp (fun {k k'} (hlt : k < k') (heq : k = k') => String.lt_irrefl k' (heq ▸ hlt)) h

theorem Sorted.filter (h : m.Sorted) (p : String × α → Bool) : Sorted (List.filter p m) :=
  List.Pairwise.sublist (List.filter_sublist.map _) h

theorem erase_of_not_mem (h : key ∉ m.keys) : m.erase key = m :=
  List.filter_eq_self.2 fun _ hentry =>
    decide_eq_true fun heq => h (heq ▸ List.mem_map_of_mem hentry)

theorem erase_of_lt (h : ∀ other ∈ m.keys, key < other) : m.erase key = m :=
  erase_of_not_mem fun hkey => String.lt_irrefl key (h key hkey)

theorem insert_of_lt (h : ∀ other ∈ m.keys, key < other) :
    m.insert key value = (key, value) :: m := by
  cases m with
  | nil => rfl
  | cons entry rest => rw [insert, if_pos (h entry.1 List.mem_cons_self)]

theorem erase_insert : (m.insert key value).erase key = m.erase key := by
  induction m with
  | nil => simp [insert, erase]
  | cons entry rest ih =>
    obtain ⟨k, v⟩ := entry
    rw [insert]
    split
    · exact erase_cons_self key _
    · split
      · next heq =>
        subst heq
        rw [erase_cons_self, erase_cons_self]
      · next hne => rw [erase_cons_of_ne (Ne.symm hne), erase_cons_of_ne (Ne.symm hne), ih]

/-- Setting a key that was removed before is the same as setting it. -/
theorem insert_erase (h : m.Sorted) : (m.erase key).insert key value = m.insert key value := by
  induction m with
  | nil => rfl
  | cons entry rest ih =>
    obtain ⟨k, v⟩ := entry
    obtain ⟨hfirst, hrest⟩ := sorted_cons_iff.1 h
    by_cases hk : k = key
    · subst hk
      rw [erase_cons_self, erase_of_lt hfirst, insert_of_lt hfirst, insert,
        if_neg (String.lt_irrefl k), if_pos rfl]
    · rw [erase_cons_of_ne hk, insert, insert, if_neg (Ne.symm hk), if_neg (Ne.symm hk), ih hrest]
      split
      · -- all other keys are greater than one that belongs in front, so it was not there
        next hlt => rw [erase_of_lt fun other hother => String.lt_trans hlt (hfirst other hother)]
      · rfl

/-- Setting a key to the value that it already has changes nothing. -/
theorem insert_of_lookup (h : m.Sorted) (hvalue : m.lookup key = some value) :
    m.insert key value = m := by
  induction m with
  | nil => cases hvalue
  | cons entry rest ih =>
    obtain ⟨k, v⟩ := entry
    obtain ⟨hfirst, hrest⟩ := sorted_cons_iff.1 h
    rw [lookup_cons_eq_ite] at hvalue
    by_cases hk : key = k
    · rw [if_pos hk] at hvalue
      cases hvalue
      rw [insert, hk, if_neg (String.lt_irrefl k), if_pos rfl]
    · rw [if_neg hk] at hvalue
      -- the key is found later on, so it does not belong in front of the first one
      have hkey : key ∈ keys rest := by
        rw [mem_keys_iff_lookup, hvalue]
        rfl
      have hlt : ¬ key < k := fun hlt =>
        String.lt_irrefl key (String.lt_trans hlt (hfirst key hkey))
      rw [insert, if_neg hlt, if_neg hk, ih hrest hvalue]

end Order

end Members

/-- Members with their keys in order. -/
@[ext]
structure SortedMembers (α : Type) where
  members : Members α
  sorted : members.Sorted

namespace SortedMembers

variable {α : Type}

def empty : SortedMembers α := ⟨[], .nil⟩

@[simp]
theorem members_empty : (empty : SortedMembers α).members = [] := rfl

def insert (key : String) (value : α) (m : SortedMembers α) : SortedMembers α :=
  ⟨m.members.insert key value, Members.sorted_insert m.sorted⟩

theorem lookup_insert (key other : String) (value : α) (m : SortedMembers α) :
    (m.insert key value).members.lookup other =
      if other = key then some value else m.members.lookup other :=
  Members.lookup_insert key other value m.members

def filter (p : String × α → Bool) (m : SortedMembers α) : SortedMembers α :=
  ⟨List.filter p m.members, m.sorted.filter p⟩

theorem lookup_filter (key : String) (m : SortedMembers α) (p : String → Bool) :
    (m.filter (p ·.1)).members.lookup key = if p key then m.members.lookup key else none :=
  Members.lookup_filter key m.members p

/-- Of several members with one key the last is kept. -/
def ofList (members : List (String × α)) : SortedMembers α :=
  members.foldl (fun m kv => m.insert kv.1 kv.2) empty

theorem lookup_ofList (members : List (String × α)) (key : String) :
    (ofList members).members.lookup key = members.reverse.lookup key := by
  have hset (set : SortedMembers α) :
      (members.foldl (fun m kv => m.insert kv.1 kv.2) set).members.lookup key =
        (members.reverse.lookup key).or (set.members.lookup key) := by
    induction members generalizing set with
    | nil => rfl
    | cons entry rest ih =>
      rw [List.foldl_cons, ih, lookup_insert, List.reverse_cons, List.lookup_append,
        Members.lookup_cons_eq_ite, List.lookup_nil]
      cases rest.reverse.lookup key with
      | some v => rfl
      | none => split <;> rfl
  rw [ofList, hset, members_empty, List.lookup_nil, Option.or_none]

theorem insert_of_lookup {key : String} {value : α} {m : SortedMembers α}
    (h : m.members.lookup key = some value) : m.insert key value = m :=
  SortedMembers.ext (Members.insert_of_lookup m.sorted h)

end SortedMembers

end JsonRules
