import JsonRules.Proofs.Json.Symmetry
import JsonRules.Settings.Value

namespace JsonRules.SettingValue

def lookup? : SettingValue → String → Option SettingValue
  | table entries, key => entries.lookup key
  | _, _ => none

def IsTable (v : SettingValue) : Prop := ∃ entries, v = table entries

/-- Two values are the same, or they are both tables. -/
def Like (u v : SettingValue) : Prop := u = v ∨ u.IsTable ∧ v.IsTable

/-- What becomes of a value on top of the one that is there before, if there is one. -/
def onTop (below : Option SettingValue) (v : SettingValue) : SettingValue :=
  (below.map (·.merge v)).getD v

def layered (below above : Option SettingValue) : Option SettingValue :=
  (above.map (onTop below)).or below

section Merge

variable {u v : SettingValue} {below above : Option SettingValue}

theorem like_refl (v : SettingValue) : v.Like v := .inl rfl

theorem Like.symm (h : u.Like v) : v.Like u := h.imp Eq.symm And.symm

theorem Like.trans {w : SettingValue} (huv : u.Like v) (hvw : v.Like w) : u.Like w := by
  obtain rfl | ⟨hu, hv⟩ := huv
  · exact hvw
  · obtain rfl | ⟨-, hw⟩ := hvw
    · exact .inr ⟨hu, hv⟩
    · exact .inr ⟨hu, hw⟩

theorem merge_table (earlier later : List (String × SettingValue)) :
    (table earlier).merge (table later) = table (mergeEntries earlier later) := by
  rw [merge]

/-- Only two tables are joined. -/
theorem merge_eq_of_not_isTable (h : ¬(u.IsTable ∧ v.IsTable)) : u.merge v = v := by
  rw [merge]
  rintro earlier later rfl rfl
  exact h ⟨⟨earlier, rfl⟩, ⟨later, rfl⟩⟩

theorem merge_like : (u.merge v).Like v := by
  by_cases h : u.IsTable ∧ v.IsTable
  · obtain ⟨⟨earlier, rfl⟩, ⟨later, rfl⟩⟩ := h
    exact .inr ⟨⟨_, merge_table earlier later⟩, ⟨later, rfl⟩⟩
  · exact .inl (merge_eq_of_not_isTable h)

theorem onTop_like : (onTop below v).Like v := by
  cases below with
  | none => exact like_refl v
  | some u => exact merge_like

theorem onTop_eq_of_not_isTable (h : ¬v.IsTable) : onTop below v = v := by
  cases below with
  | none => rfl
  | some u => exact merge_eq_of_not_isTable fun hboth => h hboth.2

theorem onTop_eq_of_forall_not_isTable (h : ∀ u ∈ below, ¬u.IsTable) : onTop below v = v := by
  cases below with
  | none => rfl
  | some u => exact merge_eq_of_not_isTable fun hboth => h u rfl hboth.1

theorem layered_none : layered below none = below := rfl

theorem layered_some : layered below (some v) = some (onTop below v) := rfl

theorem not_isTable_of_layered (hbelow : ∀ u ∈ below, ¬u.IsTable)
    (habove : ∀ u ∈ above, ¬u.IsTable) :
    ∀ u ∈ layered below above, ¬u.IsTable := by
  cases above with
  | none => exact hbelow
  | some v =>
    rw [layered_some, onTop_eq_of_not_isTable (habove v rfl)]
    exact habove

/-- The value of the upper layer counts, up to what tables have in them. -/
theorem rel_layered : Option.Rel Like (layered below above) (above.or below) := by
  cases above with
  | none =>
    cases below with
    | none => exact .none
    | some u => exact .some (like_refl u)
  | some v => exact .some onTop_like

end Merge

section Entries

variable {earlier later : List (String × SettingValue)}

theorem mergeEntries_cons (earlier later : List (String × SettingValue)) (key : String)
    (v : SettingValue) :
    mergeEntries earlier ((key, v) :: later) =
      mergeEntries (Members.insert key (onTop (earlier.lookup key) v) earlier) later := by
  rw [mergeEntries]
  cases earlier.lookup key <;> rfl

theorem sorted_mergeEntries (later : List (String × SettingValue)) (h : Members.Sorted earlier) :
    Members.Sorted (mergeEntries earlier later) := by
  induction later generalizing earlier with
  | nil => exact h
  | cons entry later ih =>
    rw [mergeEntries_cons]
    exact ih (Members.sorted_insert h)

theorem lookup_mergeEntries (h : (Members.keys later).Nodup) (key : String) :
    (mergeEntries earlier later).lookup key = layered (earlier.lookup key) (later.lookup key) := by
  induction later generalizing earlier with
  | nil => rfl
  | cons entry later ih =>
    obtain ⟨k, v⟩ := entry
    obtain ⟨hk, hlater⟩ := List.nodup_cons.1 h
    rw [mergeEntries_cons, ih hlater, Members.lookup_insert, Members.lookup_cons_eq_ite]
    by_cases hkey : key = k
    · have hnone : later.lookup k = none := by
        rw [← Option.not_isSome_iff_eq_none, ← Members.mem_keys_iff_lookup]
        exact hk
      rw [if_pos hkey, if_pos hkey, hkey, hnone, layered_none, layered_some]
    · rw [if_neg hkey, if_neg hkey]

end Entries

end JsonRules.SettingValue

namespace JsonRules.SortedMembers

open SettingValue

variable (earlier later : SortedMembers SettingValue)

def merge : SortedMembers SettingValue :=
  ⟨mergeEntries earlier.members later.members, sorted_mergeEntries later.members earlier.sorted⟩

theorem table_merge :
    (table earlier.members).merge (table later.members) = table (earlier.merge later).members :=
  merge_table earlier.members later.members

theorem lookup_merge (key : String) :
    (earlier.merge later).members.lookup key =
      layered (earlier.members.lookup key) (later.members.lookup key) :=
  lookup_mergeEntries later.sorted.nodup_keys key

end JsonRules.SortedMembers
