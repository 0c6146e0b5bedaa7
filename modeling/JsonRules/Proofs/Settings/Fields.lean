import JsonRules.Except
import JsonRules.Proofs.Settings.Merge
import JsonRules.Settings.Layers

namespace JsonRules

namespace SettingValue

/-- A value is a text; a character in quotes is one too. -/
inductive IsText : SettingValue → String → Prop
  | string (s : String) : IsText (.string s) s
  | char (c : Char) : IsText (.char c) (String.singleton c)

/-- A value is a number to count with, whatever its source takes it for. -/
inductive IsCount : SettingValue → Nat → Prop
  | unsigned (n : Nat) : IsCount (.unsigned n) n
  | signed (n : Nat) : IsCount (.signed n) n

end SettingValue

namespace Settings

def fieldNames : List String :=
  ["parallel_threshold", "presence_policy", "profile_pattern", "strict_profiles", "version"]

theorem forall_mem_fieldNames {P : String → Prop} :
    (∀ field ∈ fieldNames, P field) ↔
      P "parallel_threshold" ∧ P "presence_policy" ∧ P "profile_pattern" ∧ P "strict_profiles" ∧
        P "version" := by
  simp [fieldNames]

/-- The settings have in a field what a value says. -/
def Takes (s : Settings) (field : String) (v : SettingValue) : Prop :=
  match field with
  | "version" => v.IsText s.version
  | "profile_pattern" => v.IsText s.profilePattern
  | "strict_profiles" => v = .bool s.strictProfiles
  | "presence_policy" => v = .string s.presencePolicy.name
  | "parallel_threshold" => v.IsCount s.parallelThreshold
  | _ => True

def FailsAt (field : String) (loaded : Except SettingsError Settings) : Prop :=
  ∃ path fault, loaded = .error (.field (field :: path) fault)

end Settings

namespace SettingValue

theorem toText_eq_ok_iff {v : SettingValue} {s : String} : v.toText = .ok s ↔ v.IsText s := by
  constructor
  · intro h
    cases v with
    | string t =>
      cases h
      exact .string _
    | char c =>
      cases h
      exact .char c
    | _ => cases h
  · intro h
    cases h with
    | string => rfl
    | char c => rfl

theorem IsText.unique {v : SettingValue} {s t : String} (hs : v.IsText s) (ht : v.IsText t) :
    s = t :=
  Except.ok.inj ((toText_eq_ok_iff.2 hs).symm.trans (toText_eq_ok_iff.2 ht))

theorem toBool_eq_ok_iff {v : SettingValue} {b : Bool} : v.toBool = .ok b ↔ v = .bool b := by
  cases v <;> simp [toBool, wrongType]

theorem toCount_eq_ok_iff {v : SettingValue} {n : Nat} : v.toCount = .ok n ↔ v.IsCount n := by
  constructor
  · intro h
    cases v with
    | unsigned m =>
      cases h
      exact .unsigned _
    | signed i =>
      rw [toCount] at h
      split at h
      · next hi =>
        cases h
        have hsigned := IsCount.signed i.toNat
        rwa [Int.toNat_of_nonneg hi] at hsigned
      · cases h
    | _ => cases h
  · intro h
    cases h with
    | unsigned => rfl
    | signed => rw [toCount, if_pos (Int.natCast_nonneg n), Int.toNat_natCast]

theorem IsCount.unique {v : SettingValue} {m n : Nat} (hm : v.IsCount m) (hn : v.IsCount n) :
    m = n :=
  Except.ok.inj ((toCount_eq_ok_iff.2 hm).symm.trans (toCount_eq_ok_iff.2 hn))

theorem lookup_named_eq_some_iff {name : String} {p : PresencePolicy} :
    PresencePolicy.named.lookup name = some p ↔ name = p.name := by
  rw [PresencePolicy.named, Members.lookup_cons_eq_ite, Members.lookup_cons_eq_ite]
  constructor
  · intro h
    split at h
    · next heq =>
      cases h
      exact heq
    · split at h
      · next heq =>
        cases h
        exact heq
      · cases h
  · rintro rfl
    cases p <;> rfl

theorem toPolicy_eq_ok_iff {v : SettingValue} {p : PresencePolicy} :
    v.toPolicy = .ok p ↔ v = .string p.name := by
  constructor
  · intro h
    unfold toPolicy at h
    split at h
    · split at h
      · next hname =>
        cases h
        rw [lookup_named_eq_some_iff.1 hname]
      · cases h
    · cases h
    · cases h
    · cases h
  · rintro rfl
    rw [toPolicy, lookup_named_eq_some_iff.2 rfl]

end SettingValue

namespace Settings

variable {s t : Settings} {key : String} {v : SettingValue}

/-- Other keys than those of fields are ignored. -/
theorem setField_of_not_mem (h : key ∉ fieldNames) : s.setField key v = .ok s := by
  unfold setField
  split
  case h_6 => rfl
  all_goals exact absurd (by decide) h

theorem takes_of_not_mem (h : key ∉ fieldNames) : s.Takes key v := by
  unfold Takes
  split
  case h_6 => trivial
  all_goals exact absurd (by decide) h

theorem takes_congr (hversion : key = "version" → s.version = t.version)
    (hpattern : key = "profile_pattern" → s.profilePattern = t.profilePattern)
    (hstrict : key = "strict_profiles" → s.strictProfiles = t.strictProfiles)
    (hpolicy : key = "presence_policy" → s.presencePolicy = t.presencePolicy)
    (hthreshold : key = "parallel_threshold" → s.parallelThreshold = t.parallelThreshold) :
    s.Takes key v ↔ t.Takes key v := by
  unfold Takes
  split
  · rw [hversion rfl]
  · rw [hpattern rfl]
  · rw [hstrict rfl]
  · rw [hpolicy rfl]
  · rw [hthreshold rfl]
  · rfl

/-- A field is set to what `read` makes of a value. -/
structure IsReadBy {α : Type} (field : String) (read : SettingValue → SettingValue.Extracted α)
    (get : Settings → α) (set : Settings → α → Settings) : Prop where
  setField_eq : ∀ s v, setField s field v = (read v).map (set s)
  takes_iff : ∀ s v, Takes s field v ↔ read v = .ok (get s)
  get_set : ∀ s a, get (set s a) = a
  takes_set : ∀ s a, ∀ other ≠ field, ∀ u, (set s a).Takes other u ↔ s.Takes other u

theorem exists_isReadBy : ∀ field ∈ fieldNames,
    ∃ (α : Type) (read : SettingValue → SettingValue.Extracted α) (get : Settings → α)
      (set : Settings → α → Settings), IsReadBy field read get set := by
  refine forall_mem_fieldNames.2 ⟨?_, ?_, ?_, ?_, ?_⟩
  · refine ⟨_, SettingValue.toCount, parallelThreshold,
      fun s n => { s with parallelThreshold := n },
      fun _ _ => rfl, fun _ _ => SettingValue.toCount_eq_ok_iff.symm, fun _ _ => rfl, ?_⟩
    intro s n other hother u
    exact takes_congr (fun _ => rfl) (fun _ => rfl) (fun _ => rfl) (fun _ => rfl) (absurd · hother)
  · refine ⟨_, SettingValue.toPolicy, presencePolicy, fun s p => { s with presencePolicy := p },
      fun _ _ => rfl, fun _ _ => SettingValue.toPolicy_eq_ok_iff.symm, fun _ _ => rfl, ?_⟩
    intro s p other hother u
    exact takes_congr (fun _ => rfl) (fun _ => rfl) (fun _ => rfl) (absurd · hother) (fun _ => rfl)
  · refine ⟨_, SettingValue.toText, profilePattern, fun s p => { s with profilePattern := p },
      fun _ _ => rfl, fun _ _ => SettingValue.toText_eq_ok_iff.symm, fun _ _ => rfl, ?_⟩
    intro s p other hother u
    exact takes_congr (fun _ => rfl) (absurd · hother) (fun _ => rfl) (fun _ => rfl) (fun _ => rfl)
  · refine ⟨_, SettingValue.toBool, strictProfiles, fun s b => { s with strictProfiles := b },
      fun _ _ => rfl, fun _ _ => SettingValue.toBool_eq_ok_iff.symm, fun _ _ => rfl, ?_⟩
    intro s b other hother u
    exact takes_congr (fun _ => rfl) (fun _ => rfl) (absurd · hother) (fun _ => rfl) (fun _ => rfl)
  · refine ⟨_, SettingValue.toText, version, fun s x => { s with version := x },
      fun _ _ => rfl, fun _ _ => SettingValue.toText_eq_ok_iff.symm, fun _ _ => rfl, ?_⟩
    intro s x other hother u
    exact takes_congr (absurd · hother) (fun _ => rfl) (fun _ => rfl) (fun _ => rfl) (fun _ => rfl)

/-- A field that is set has the value, and all the others are left as they are. -/
theorem takes_of_setField (h : s.setField key v = .ok t) :
    t.Takes key v ∧ ∀ other ≠ key, ∀ u, t.Takes other u ↔ s.Takes other u := by
  by_cases hkey : key ∈ fieldNames
  · obtain ⟨α, read, get, set, hfield⟩ := exists_isReadBy key hkey
    rw [hfield.setField_eq, Except.map_eq_ok_iff] at h
    obtain ⟨a, ha, rfl⟩ := h
    refine ⟨(hfield.takes_iff _ _).2 ?_, hfield.takes_set s a⟩
    rw [ha, hfield.get_set]
  · rw [setField_of_not_mem hkey] at h
    cases h
    exact ⟨takes_of_not_mem hkey, fun _ _ _ => Iff.rfl⟩

/-- A value that a field cannot be set to fits it in no settings. -/
theorem not_takes_of_setField {e : List String × SettingFault} (h : s.setField key v = .error e)
    (t : Settings) : ¬t.Takes key v := by
  by_cases hkey : key ∈ fieldNames
  · obtain ⟨α, read, get, set, hfield⟩ := exists_isReadBy key hkey
    rw [hfield.setField_eq, Except.map_eq_error_iff] at h
    rw [hfield.takes_iff, h]
    intro hok
    cases hok
  · rw [setField_of_not_mem hkey] at h
    cases h

/-- Settings are known by the values that their fields take. -/
theorem eq_of_takes (h : ∀ field ∈ fieldNames, ∃ v, s.Takes field v ∧ t.Takes field v) : s = t := by
  obtain ⟨⟨_, hthreshold, hthreshold'⟩, ⟨_, hpolicy, hpolicy'⟩, ⟨_, hpattern, hpattern'⟩,
    ⟨_, hstrict, hstrict'⟩, ⟨_, hversion, hversion'⟩⟩ := forall_mem_fieldNames.1 h
  have hpolicies := (SettingValue.toPolicy_eq_ok_iff.2 hpolicy).symm.trans
    (SettingValue.toPolicy_eq_ok_iff.2 hpolicy')
  cases s
  cases t
  rw [Settings.mk.injEq]
  exact ⟨hversion.unique hversion', hpattern.unique hpattern',
    SettingValue.bool.inj (hstrict.symm.trans hstrict'), Except.ok.inj hpolicies,
    hthreshold.unique hthreshold'⟩

/-- No field can be set to a table. -/
theorem not_takes_of_isTable (hkey : key ∈ fieldNames) (hv : v.IsTable) : ¬s.Takes key v := by
  obtain ⟨entries, rfl⟩ := hv
  have hfields : ∀ field ∈ fieldNames, ¬s.Takes field (.table entries) := by
    refine forall_mem_fieldNames.2 ⟨?_, ?_, ?_, ?_, ?_⟩
    all_goals
      intro htakes
      cases htakes
  exact hfields key hkey

theorem takes_like {u : SettingValue} (h : u.Like v) : s.Takes key u ↔ s.Takes key v := by
  obtain rfl | ⟨hu, hv⟩ := h
  · rfl
  · by_cases hkey : key ∈ fieldNames
    · exact iff_of_false (not_takes_of_isTable hkey hu) (not_takes_of_isTable hkey hv)
    · exact iff_of_true (takes_of_not_mem hkey) (takes_of_not_mem hkey)

/-- What is in a table is looked at for the policy only. -/
theorem setField_like {u : SettingValue} (hkey : key ≠ "presence_policy") (h : u.Like v) :
    s.setField key u = s.setField key v := by
  obtain rfl | ⟨⟨entries, rfl⟩, ⟨others, rfl⟩⟩ := h
  · rfl
  · unfold setField
    split
    case h_4 => exact absurd rfl hkey
    all_goals rfl

section Entries

variable {entries others : List (String × SettingValue)}

theorem setFields_filter :
    setFields s (entries.filter (·.1 ∈ fieldNames)) = setFields s entries := by
  induction entries generalizing s with
  | nil => rfl
  | cons entry rest ih =>
    obtain ⟨key, v⟩ := entry
    by_cases hkey : key ∈ fieldNames
    · rw [List.filter_cons_of_pos (by simpa using hkey), setFields, setFields]
      split
      · exact ih
      · rfl
    · have hskip : setFields s ((key, v) :: rest) = setFields s rest := by
        rw [setFields, setField_of_not_mem hkey]
      rw [List.filter_cons_of_neg (by simpa using hkey), ih, hskip]

theorem takes_of_setFields (hnodup : (Members.keys entries).Nodup)
    (h : setFields s entries = .ok t) :
    (∀ entry ∈ entries, t.Takes entry.1 entry.2) ∧
      ∀ key ∉ Members.keys entries, ∀ u, t.Takes key u ↔ s.Takes key u := by
  induction entries generalizing s with
  | nil =>
    cases h
    exact ⟨List.forall_mem_nil _, fun _ _ _ => Iff.rfl⟩
  | cons entry rest ih =>
    obtain ⟨key, v⟩ := entry
    obtain ⟨hfresh, hrest⟩ := List.nodup_cons.1 hnodup
    rw [setFields] at h
    split at h
    · next s' hset =>
      obtain ⟨htakes, hothers⟩ := takes_of_setField hset
      obtain ⟨hlater, hkept⟩ := ih hrest h
      refine ⟨List.forall_mem_cons.2 ⟨(hkept key hfresh v).2 htakes, hlater⟩, ?_⟩
      intro other hother u
      rw [Members.keys, List.map_cons, List.mem_cons, not_or] at hother
      exact (hkept other hother.2 u).trans (hothers other hother.1 u)
    · cases h

theorem exists_not_takes_of_setFields {e : SettingsError} (h : setFields s entries = .error e) :
    ∃ entry ∈ entries, ∀ t, ¬Takes t entry.1 entry.2 := by
  induction entries generalizing s with
  | nil => cases h
  | cons entry rest ih =>
    obtain ⟨key, v⟩ := entry
    rw [setFields] at h
    split at h
    · obtain ⟨entry, hentry, hnot⟩ := ih h
      exact ⟨entry, List.mem_cons_of_mem _ hentry, hnot⟩
    · next path fault hset => exact ⟨(key, v), List.mem_cons_self, not_takes_of_setField hset⟩

theorem failsAt_of_isTable (hkey : key ∈ fieldNames) (hv : v.IsTable) :
    FailsAt key (setFields s ((key, v) :: entries)) := by
  rw [setFields]
  rcases hset : s.setField key v with ⟨path, fault⟩ | t
  · exact ⟨path, fault, rfl⟩
  · exact absurd (takes_of_setField hset).1 (not_takes_of_isTable hkey hv)

/-- Values that differ only in what tables have in them give the same settings or the same error,
unless the tables are for the policy; then they give none. -/
theorem setFields_like
    (h : List.Forall₂ (fun p q => p.1 = q.1 ∧ p.2.Like q.2) entries others) :
    setFields s entries = setFields s others ∨
      ∃ u v, ("presence_policy", u) ∈ entries ∧ ("presence_policy", v) ∈ others ∧ u ≠ v ∧
        FailsAt "presence_policy" (setFields s entries) ∧
        FailsAt "presence_policy" (setFields s others) := by
  induction h generalizing s with
  | nil => exact .inl rfl
  | @cons p q entries others hhead _ ih =>
    obtain ⟨key, u⟩ := p
    obtain ⟨_, v⟩ := q
    obtain ⟨rfl, hlike⟩ := hhead
    by_cases hset : s.setField key u = s.setField key v
    · rw [setFields, setFields, hset]
      rcases s.setField key v with e | s'
      · exact .inl rfl
      · obtain heq | ⟨u', v', hu', hv', hdiffer⟩ := ih (s := s')
        · exact .inl heq
        · exact .inr ⟨u', v', List.mem_cons_of_mem _ hu', List.mem_cons_of_mem _ hv', hdiffer⟩
    · -- Both end here, each with an error of its own.
      have hkey : key = "presence_policy" := by
        by_contra hne
        exact hset (setField_like hne hlike)
      subst hkey
      obtain rfl | ⟨hu, hv⟩ := hlike
      · exact absurd rfl hset
      · refine .inr ⟨u, v, List.mem_cons_self, List.mem_cons_self, ?_, ?_, ?_⟩
        · rintro rfl
          exact hset rfl
        · exact failsAt_of_isTable (by decide) hu
        · exact failsAt_of_isTable (by decide) hv

end Entries

end Settings

end JsonRules
