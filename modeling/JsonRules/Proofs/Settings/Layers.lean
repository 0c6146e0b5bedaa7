import JsonRules.Proofs.Settings.FileTable
import JsonRules.Proofs.Settings.Variables

namespace JsonRules.Settings

open Environment (given NameFields)
open SettingValue (Like layered)

def WellFormed (file : Option String) : Prop := ∀ text ∈ file, (Toml.table? text).isSome = true

def written (file : Option String) (field : String) : Option SettingValue :=
  (file.bind Toml.table?).bind (·.lookup? field)

/-- What the highest layer that has the field says: variables come before the file, and the file
before the defaults. -/
def winning (file : Option String) (vars : List (String × String)) (field : String) :
    Option SettingValue :=
  ((given vars field).or (written file field)).or (defaultLayer.lookup? field)

/-- What the layers say together on a field. -/
def joined (file : Option String) (vars : List (String × String)) (field : String) :
    Option SettingValue :=
  layered (layered (defaultLayer.lookup? field) (written file field)) (given vars field)

section Layers

variable {file other : Option String} {vars : List (String × String)} {field : String}

theorem rel_joined_winning :
    Option.Rel Like (joined file vars field) (winning file vars field) := by
  rw [joined, winning]
  cases given vars field with
  | none =>
    rw [SettingValue.layered_none, Option.none_or]
    exact SettingValue.rel_layered
  | some v => exact .some SettingValue.onTop_like

/-- The defaults are what the lowest layer says. -/
theorem exists_default : ∀ field ∈ fieldNames,
    ∃ v, defaultLayer.lookup? field = some v ∧ Takes {} field v :=
  forall_mem_fieldNames.2 ⟨⟨_, rfl, .unsigned _⟩, ⟨_, rfl, rfl⟩, ⟨_, rfl, .string _⟩,
    ⟨_, rfl, rfl⟩, ⟨_, rfl, .string _⟩⟩

theorem exists_fileTable (h : WellFormed file) :
    ∃ entries : SortedMembers SettingValue,
      (∀ key, written file key = entries.members.lookup key) ∧ ∀ vars, load file vars =
        ofTable ((defaultLayer.merge (.table entries.members)).merge (Environment.table vars)) := by
  cases file with
  | none => exact ⟨.empty, fun _ => rfl, fun _ => rfl⟩
  | some text =>
    obtain ⟨v, hv⟩ := Option.isSome_iff_exists.1 (h text rfl)
    obtain ⟨entries, rfl⟩ := Toml.exists_sorted_of_table? hv
    refine ⟨entries, fun key => ?_, fun vars => ?_⟩
    · rw [written, Option.bind_some, hv, Option.bind_some, SettingValue.lookup?]
    · rw [load, Option.map_some, hv]

theorem exists_defaultLayer_eq :
    ∃ defaults : SortedMembers SettingValue, defaultLayer = .table defaults.members := by
  have hnames : fieldNames.Pairwise (· < ·) := by decide
  obtain ⟨entries, heq, hsorted⟩ :
      ∃ entries, defaultLayer = .table entries ∧ Members.Sorted entries := ⟨_, rfl, hnames⟩
  exact ⟨⟨entries, hsorted⟩, heq⟩

/-- Loading sets the fields to what the layers say together, whatever else there is in them. -/
theorem exists_load (hfile : WellFormed file) (hvars : NameFields vars) :
    ∃ entries : SortedMembers SettingValue, load file vars = setFields {} entries.members ∧
      ∀ key, entries.members.lookup key =
        if key ∈ fieldNames then joined file vars key else none := by
  obtain ⟨lines, hwritten, hload⟩ := exists_fileTable hfile
  obtain ⟨settings, htable, hgiven⟩ := Environment.exists_sorted_table hvars
  obtain ⟨defaults, hdefaults⟩ := exists_defaultLayer_eq
  refine ⟨((defaults.merge lines).merge settings).filter (·.1 ∈ fieldNames), ?_, fun key => ?_⟩
  · rw [hload, htable, hdefaults, SortedMembers.table_merge, SortedMembers.table_merge, ofTable]
    exact setFields_filter.symm
  · rw [SortedMembers.lookup_filter key _ (· ∈ fieldNames)]
    by_cases hkey : key ∈ fieldNames
    · rw [if_pos (decide_eq_true hkey), if_pos hkey, SortedMembers.lookup_merge,
        SortedMembers.lookup_merge, hgiven key hkey, ← hwritten, joined, hdefaults,
        SettingValue.lookup?]
    · rw [if_neg (by simpa using hkey), if_neg hkey]

/-- Every field has a value, which is the winning one up to what tables have in them. -/
theorem exists_joined (file : Option String) (vars : List (String × String))
    (h : field ∈ fieldNames) :
    ∃ v w, joined file vars field = some v ∧ winning file vars field = some w ∧ v.Like w := by
  obtain ⟨d, hd, -⟩ := exists_default field h
  have hrel : Option.Rel Like (joined file vars field) (winning file vars field) :=
    rel_joined_winning
  have hsome : (winning file vars field).isSome = true := by
    rw [winning, hd, Option.isSome_or, Option.isSome_some, Bool.or_true]
  generalize joined file vars field = x, winning file vars field = y at hrel hsome ⊢
  cases hrel with
  | none => cases hsome
  | some hlike => exact ⟨_, _, rfl, rfl, hlike⟩

theorem takes_of_load (hfile : WellFormed file) (hvars : NameFields vars) {s : Settings}
    (h : load file vars = .ok s) (hfield : field ∈ fieldNames) :
    ∃ v, winning file vars field = some v ∧ s.Takes field v := by
  obtain ⟨entries, hload, hlookup⟩ := exists_load hfile hvars
  obtain ⟨v, w, hjoined, hwinning, hlike⟩ := exists_joined file vars hfield
  have hentry : (field, v) ∈ entries.members := by
    apply Members.mem_of_lookup
    rw [hlookup, if_pos hfield, hjoined]
  have htakes := (takes_of_setFields entries.sorted.nodup_keys (hload.symm.trans h)).1 _ hentry
  exact ⟨w, hwinning, (takes_like hlike).1 htakes⟩

theorem exists_not_takes_of_load (hfile : WellFormed file) (hvars : NameFields vars)
    {e : SettingsError} (h : load file vars = .error e) :
    ∃ field ∈ fieldNames, ∃ v, winning file vars field = some v ∧ ∀ s, ¬Takes s field v := by
  obtain ⟨entries, hload, hlookup⟩ := exists_load hfile hvars
  obtain ⟨⟨field, u⟩, hentry, hnot⟩ := exists_not_takes_of_setFields (hload.symm.trans h)
  have hfield : field ∈ fieldNames := by
    by_contra hother
    exact hnot {} (takes_of_not_mem hother)
  have hu : joined file vars field = some u := by
    rw [← entries.lookup_of_mem hentry, hlookup, if_pos hfield]
  obtain ⟨v, w, hjoined, hwinning, hlike⟩ := exists_joined file vars hfield
  cases hu.symm.trans hjoined
  exact ⟨field, hfield, w, hwinning, fun s htakes => hnot s ((takes_like hlike).2 htakes)⟩

theorem load_eq_ok_iff (hfile : WellFormed file) (hvars : NameFields vars) {s : Settings} :
    load file vars = .ok s ↔
      ∀ field ∈ fieldNames, ∃ v, winning file vars field = some v ∧ s.Takes field v := by
  refine ⟨fun h field hfield => takes_of_load hfile hvars h hfield, fun h => ?_⟩
  rcases hload : load file vars with e | t
  · obtain ⟨field, hfield, v, hv, hnot⟩ := exists_not_takes_of_load hfile hvars hload
    obtain ⟨w, hw, htakes⟩ := h field hfield
    cases hv.symm.trans hw
    exact absurd htakes (hnot s)
  · -- The settings loaded take the same values, and no others do.
    refine congrArg Except.ok (eq_of_takes fun field hfield => ?_)
    obtain ⟨v, hv, htakes⟩ := takes_of_load hfile hvars hload hfield
    obtain ⟨w, hw, htakes'⟩ := h field hfield
    cases hv.symm.trans hw
    exact ⟨v, htakes, htakes'⟩

theorem load_fails_iff (hfile : WellFormed file) (hvars : NameFields vars) :
    (∃ e, load file vars = .error e) ↔
      ∃ field ∈ fieldNames, ∃ v, winning file vars field = some v ∧ ∀ s, ¬Takes s field v := by
  constructor
  · rintro ⟨e, h⟩
    exact exists_not_takes_of_load hfile hvars h
  · rintro ⟨field, hfield, v, hv, hnot⟩
    rcases hload : load file vars with e | s
    · exact ⟨e, rfl⟩
    · obtain ⟨w, hw, htakes⟩ := takes_of_load hfile hvars hload hfield
      cases hv.symm.trans hw
      exact absurd htakes (hnot s)

/-- What a variable says counts as it is, unless it is a table and the file has a table as well. -/
theorem joined_of_given (hfield : field ∈ fieldNames) {v : SettingValue}
    (hv : given vars field = some v)
    (h : ¬(v.IsTable ∧ ∃ u ∈ written file field, u.IsTable)) : joined file vars field = some v := by
  rw [joined, hv, SettingValue.layered_some]
  by_cases htable : v.IsTable
  · obtain ⟨d, hd, htakes⟩ := exists_default field hfield
    have hdefault : ∀ u ∈ defaultLayer.lookup? field, ¬u.IsTable := by
      rintro u hu hu'
      cases hd.symm.trans hu
      exact not_takes_of_isTable hfield hu' htakes
    have hwritten : ∀ u ∈ written file field, ¬u.IsTable := fun u hu hu' => h ⟨htable, u, hu, hu'⟩
    rw [SettingValue.onTop_eq_of_forall_not_isTable
      (SettingValue.not_isTable_of_layered hdefault hwritten)]
  · rw [SettingValue.onTop_eq_of_not_isTable htable]

theorem joined_congr (hgiven : given vars field = none)
    (hsame : written other field = written file field) :
    joined other vars field = joined file vars field := by
  rw [joined, joined, hgiven, hsame]

/-- Files that differ only in what variables override say things that are alike. -/
theorem rel_joined (hsame : given vars field = none → written other field = written file field) :
    Option.Rel Like (joined other vars field) (joined file vars field) := by
  rcases hgiven : given vars field with _ | v
  · rw [joined_congr hgiven (hsame hgiven)]
    cases joined file vars field with
    | none => exact .none
    | some u => exact .some (SettingValue.like_refl u)
  · rw [joined, joined, hgiven]
    exact .some (SettingValue.onTop_like.trans SettingValue.onTop_like.symm)

/-- What variables override makes no difference, unless it is joined with a table for the policy. -/
theorem load_eq_or_failsAt (hfile : WellFormed file) (hother : WellFormed other)
    (hvars : NameFields vars)
    (hsame : ∀ field ∈ fieldNames, given vars field = none →
      written other field = written file field) :
    load other vars = load file vars ∨
      joined other vars "presence_policy" ≠ joined file vars "presence_policy" ∧
        FailsAt "presence_policy" (load other vars) ∧
        FailsAt "presence_policy" (load file vars) := by
  obtain ⟨entries, hload, hlookup⟩ := exists_load hfile hvars
  obtain ⟨changed, hload', hlookup'⟩ := exists_load hother hvars
  -- As both have their keys in order, what they have under each key makes them alike as lists.
  have hlike := SortedMembers.forall₂_of_lookup (R := Like) changed entries fun key => by
    rw [hlookup', hlookup]
    by_cases hkey : key ∈ fieldNames
    · rw [if_pos hkey, if_pos hkey]
      exact rel_joined (hsame key hkey)
    · rw [if_neg hkey, if_neg hkey]
      exact .none
  rw [hload, hload']
  obtain heq | ⟨u, v, hu, hv, hne, hfails⟩ := setFields_like (s := {}) hlike
  · exact .inl heq
  · have hpolicy : "presence_policy" ∈ fieldNames := by decide
    have hjoined' := changed.lookup_of_mem hu
    have hjoined := entries.lookup_of_mem hv
    rw [hlookup', if_pos hpolicy] at hjoined'
    rw [hlookup, if_pos hpolicy] at hjoined
    refine .inr ⟨?_, hfails⟩
    rw [hjoined, hjoined']
    exact fun hsome => hne (Option.some.inj hsome)

end Layers

/-- Settings are loaded field by field from the highest layer that has the field, be it a variable,
the file or the defaults, and loading fails exactly if one of these values does not fit its field.
What the file says on a field that a variable is named after makes no difference, except that two
tables for the policy are joined: no policy is loaded then, but the error may be about an entry of
either. -/
theorem load_heeds_highest_layer {file : Option String} {vars : List (String × String)}
    (hfile : WellFormed file) (hvars : NameFields vars) :
    (∀ s, load file vars = .ok s ↔
      ∀ field ∈ fieldNames, ∃ v, winning file vars field = some v ∧ s.Takes field v) ∧
    ((∃ e, load file vars = .error e) ↔
      ∃ field ∈ fieldNames, ∃ v, winning file vars field = some v ∧ ∀ s, ¬Takes s field v) ∧
    ∀ other, WellFormed other →
      (∀ field ∈ fieldNames, given vars field = none →
        written other field = written file field) →
      load other vars = load file vars ∨
        (∃ v ∈ given vars "presence_policy", v.IsTable) ∧
          ((∃ v ∈ written file "presence_policy", v.IsTable) ∨
            ∃ v ∈ written other "presence_policy", v.IsTable) ∧
          FailsAt "presence_policy" (load other vars) ∧
          FailsAt "presence_policy" (load file vars) := by
  refine ⟨fun s => load_eq_ok_iff hfile hvars, load_fails_iff hfile hvars, ?_⟩
  intro other hother hsame
  obtain heq | ⟨hne, hfails⟩ := load_eq_or_failsAt hfile hother hvars hsame
  · exact .inl heq
  have hpolicy : "presence_policy" ∈ fieldNames := by decide
  rcases hgiven : given vars "presence_policy" with _ | v
  · exact absurd (joined_congr hgiven (hsame _ hpolicy hgiven)) hne
  · have htables : v.IsTable ∧ ((∃ u ∈ written file "presence_policy", u.IsTable) ∨
        ∃ u ∈ written other "presence_policy", u.IsTable) := by
      by_contra hnot
      apply hne
      rw [joined_of_given hpolicy hgiven fun hboth => hnot ⟨hboth.1, .inl hboth.2⟩,
        joined_of_given hpolicy hgiven fun hboth => hnot ⟨hboth.1, .inr hboth.2⟩]
    exact .inr ⟨⟨v, rfl, htables.1⟩, htables.2, hfails⟩

section Overridden

/-- The threshold is no number here. -/
def crookedFile : String := "parallel_threshold = []\nstrict_profiles = true\n"

def straightFile : String := "strict_profiles = true\n"

def someVariables : List (String × String) :=
  [("RULECHECK_PARALLEL_THRESHOLD", "32"), ("RuleCheck_Version", "2.1.0"), ("PATH", "/bin")]

/-- What the two files say is the same but for the threshold. -/
theorem written_crookedFile {text : String} (h : text ∈ [crookedFile, straightFile]) :
    written (some text) "presence_policy" = none ∧ written (some text) "profile_pattern" = none ∧
      written (some text) "strict_profiles" = some (.bool true) := by
  have hfiles : ∀ text ∈ [crookedFile, straightFile],
      (written (some text) "presence_policy").isNone = true ∧
        (written (some text) "profile_pattern").isNone = true ∧
        (written (some text) "strict_profiles").map SettingValue.toBool = some (.ok true) := by
    decide +kernel
  obtain ⟨hpolicy, hpattern, hstrict⟩ := hfiles text h
  obtain ⟨v, hv, htrue⟩ := Option.map_eq_some_iff.1 hstrict
  refine ⟨Option.isNone_iff_eq_none.1 hpolicy, Option.isNone_iff_eq_none.1 hpattern, ?_⟩
  rw [hv, SettingValue.toBool_eq_ok_iff.1 htrue]

/-- A variable stands in for what the file has wrong, and what the file has right is kept. -/
theorem load_crookedFile :
    WellFormed (some crookedFile) ∧ NameFields someVariables ∧
      load (some crookedFile) someVariables =
        .ok { version := "2.1.0", strictProfiles := true, parallelThreshold := 32 } ∧
      load (some straightFile) someVariables = load (some crookedFile) someVariables := by
  have hcrooked : WellFormed (some crookedFile) := by
    rintro text ⟨⟩
    decide +kernel
  have hstraight : WellFormed (some straightFile) := by
    rintro text ⟨⟩
    decide +kernel
  have hvars : NameFields someVariables := ⟨by decide +kernel, by decide +kernel⟩
  obtain ⟨hok, -, hchange⟩ := load_heeds_highest_layer hcrooked hvars
  have hthreshold : given someVariables "parallel_threshold" = some (.unsigned 32) := rfl
  have hpolicy : given someVariables "presence_policy" = none := rfl
  have hversion : given someVariables "version" = some (.string "2.1.0") := rfl
  have hfirst : crookedFile ∈ [crookedFile, straightFile] := by simp
  have hsecond : straightFile ∈ [crookedFile, straightFile] := by simp
  obtain ⟨hnoPolicy, hnoPattern, htrue⟩ := written_crookedFile hfirst
  obtain ⟨hnoPolicy', hnoPattern', htrue'⟩ := written_crookedFile hsecond
  refine ⟨hcrooked, hvars, (hok _).2 (forall_mem_fieldNames.2 ⟨?_, ?_, ?_, ?_, ?_⟩), ?_⟩
  · rw [winning, hthreshold]
    exact ⟨_, rfl, .unsigned 32⟩
  · rw [winning, hnoPolicy]
    exact ⟨_, rfl, rfl⟩
  · rw [winning, hnoPattern]
    exact ⟨_, rfl, .string _⟩
  · rw [winning, htrue]
    exact ⟨_, rfl, rfl⟩
  · rw [winning, hversion]
    exact ⟨_, rfl, .string _⟩
  · have hsame : ∀ field ∈ fieldNames, given someVariables field = none →
        written (some straightFile) field = written (some crookedFile) field := by
      refine forall_mem_fieldNames.2 ⟨fun hnone => ?_, fun _ => ?_, fun _ => ?_, fun _ => ?_,
        fun hnone => ?_⟩
      · cases hthreshold.symm.trans hnone
      · rw [hnoPolicy, hnoPolicy']
      · rw [hnoPattern, hnoPattern']
      · rw [htrue, htrue']
      · cases hversion.symm.trans hnone
    obtain heq | ⟨⟨v, hv, -⟩, -⟩ := hchange (some straightFile) hstraight hsame
    · exact heq
    · cases hpolicy.symm.trans hv

def tableFile : String := "[presence_policy]\nnever = 1\n"

def tableVariables : List (String × String) :=
  [("RULECHECK_PRESENCE_POLICY", "\x7bsometimes=1\x7d")]

/-- The error is about the table in the file although a variable overrides it: without the file it
is another one. -/
theorem load_not_blind_to_overridden_table :
    WellFormed (some tableFile) ∧ NameFields tableVariables ∧
      (given tableVariables "presence_policy").isSome = true ∧
      (written (some tableFile) "presence_policy").isSome = true ∧
      (∀ field ∈ fieldNames, given tableVariables field = none →
        written none field = written (some tableFile) field) ∧
      load none tableVariables ≠ load (some tableFile) tableVariables := by
  have hgiven : (given tableVariables "presence_policy").isSome = true := by decide +kernel
  have hother : ∀ field ∈ fieldNames, field ≠ "presence_policy" →
      (written (some tableFile) field).isNone = true := by decide +kernel
  refine ⟨?_, ⟨by decide +kernel, by decide +kernel⟩, hgiven, by decide +kernel, ?_,
    by decide +kernel⟩
  · rintro text ⟨⟩
    decide +kernel
  · intro field hfield hnone
    have hne : field ≠ "presence_policy" := by
      rintro rfl
      rw [hnone] at hgiven
      cases hgiven
    exact (Option.isNone_iff_eq_none.1 (hother field hfield hne)).symm

end Overridden

end JsonRules.Settings
