import JsonRules.Proofs.Settings.Fields

namespace JsonRules.Settings.Environment

/-- A variable has the marker and a field's name after it as its own, in upper or lower case and
apart from blanks around it and around the field's name. -/
def Names (name field : String) : Prop :=
  ∃ rest, Text.trim (name.toList.map Char.toLower) = marker.toList.map Char.toLower ++ rest ∧
    Text.trim rest = field.toList

theorem names_iff {name field : String} :
    Names name field ↔
      marker.toList.map Char.toLower <+: Text.trim (name.toList.map Char.toLower) ∧
        Text.trim ((Text.trim (name.toList.map Char.toLower)).drop
          (marker.toList.map Char.toLower).length) = field.toList := by
  constructor
  · rintro ⟨rest, hname, hrest⟩
    rw [hname, List.drop_left]
    exact ⟨List.prefix_append _ _, hrest⟩
  · rintro ⟨⟨rest, hname⟩, hrest⟩
    rw [← hname, List.drop_left] at hrest
    exact ⟨rest, hname.symm, hrest⟩

instance (name field : String) : Decidable (Names name field) := decidable_of_iff _ names_iff.symm

def given (vars : List (String × String)) (field : String) : Option SettingValue :=
  (vars.find? (Names ·.1 field)).map (value ·.2)

/-- The variables that are not ignored are named after fields, and no two of them after one. -/
structure NameFields (vars : List (String × String)) : Prop where
  named : ∀ var ∈ vars, (∃ field ∈ fieldNames, Names var.1 field) ∨ path? var.1 = none
  once : vars.Pairwise fun var other =>
    ∀ field ∈ fieldNames, Names var.1 field → ¬Names other.1 field

section Names

variable {name field other : String}

theorem Names.unique (h : Names name field) (h' : Names name other) : field = other :=
  String.toList_inj.1 ((names_iff.1 h).2.symm.trans (names_iff.1 h').2)

/-- The names of fields have no dots, which would lead further down. -/
theorem path?_of_names (hfield : field ∈ fieldNames) (h : Names name field) :
    path? name = some [field] := by
  have hparts : ∀ field ∈ fieldNames, (field.toList.splitOn '.').map String.ofList = [field] ∧
      [field].contains "" = false := by
    decide +kernel
  obtain ⟨hsplit, hcontains⟩ := hparts field hfield
  obtain ⟨hmarker, hrest⟩ := names_iff.1 h
  rw [path?]
  dsimp only
  rw [if_pos (List.isPrefixOf_iff_prefix.2 hmarker), hrest, hsplit, hcontains]
  rfl

end Names

section Given

variable {vars : List (String × String)} {var : String × String} {field : String}

theorem given_cons :
    given (var :: vars) field =
      if Names var.1 field then some (value var.2) else given vars field := by
  rw [given, List.find?_cons]
  by_cases h : Names var.1 field
  · rw [if_pos h, decide_eq_true h]
    rfl
  · rw [if_neg h, decide_eq_false h]
    rfl

theorem given_eq_none (h : ∀ var ∈ vars, ¬Names var.1 field) : given vars field = none := by
  rw [given, Option.map_eq_none_iff, List.find?_eq_none]
  simpa using h

end Given

def addVariable (t : SettingValue) (var : String × String) : SettingValue :=
  (path? var.1).elim t fun path => t.merge (nest path (value var.2))

theorem table_eq_foldl (vars : List (String × String)) :
    table vars = vars.foldl addVariable (.table []) := by
  rw [table]
  congr 1
  funext t var
  obtain ⟨name, text⟩ := var
  rw [addVariable]
  dsimp only
  cases path? name <;> rfl

section Table

variable {vars : List (String × String)} {var : String × String} {field : String}
  {entries : SortedMembers SettingValue}

theorem addVariable_of_names (hfield : field ∈ fieldNames) (h : Names var.1 field)
    (hfresh : entries.members.lookup field = none) :
    addVariable (.table entries.members) var =
      .table (entries.insert field (value var.2)).members := by
  rw [addVariable, path?_of_names hfield h, Option.elim_some, nest, nest, SettingValue.merge_table,
    SettingValue.mergeEntries_cons, hfresh]
  rfl

/-- The fields that variables are named after are not set yet. -/
def Unset (vars : List (String × String)) (entries : SortedMembers SettingValue) : Prop :=
  ∀ field ∈ fieldNames, (∃ var ∈ vars, Names var.1 field) → entries.members.lookup field = none

/-- A variable sets the field that it is named after, if there is one, and no other. -/
theorem exists_addVariable (h : NameFields (var :: vars)) (hunset : Unset (var :: vars) entries) :
    ∃ after : SortedMembers SettingValue,
      addVariable (.table entries.members) var = .table after.members ∧ Unset vars after ∧
      ∀ field ∈ fieldNames, (given vars field).or (after.members.lookup field) =
        (given (var :: vars) field).or (entries.members.lookup field) := by
  have honce := (List.pairwise_cons.1 h.once).1
  obtain ⟨field, hfield, hname⟩ | hignored := h.named var List.mem_cons_self
  · have hnew := hunset field hfield ⟨var, List.mem_cons_self, hname⟩
    refine ⟨_, addVariable_of_names hfield hname hnew, ?_, ?_⟩
    · rintro other hother ⟨later, hlater, hnamed⟩
      rw [SortedMembers.lookup_insert, if_neg]
      · exact hunset other hother ⟨later, List.mem_cons_of_mem _ hlater, hnamed⟩
      · rintro rfl
        exact honce later hlater other hother hname hnamed
    · intro other hother
      rw [SortedMembers.lookup_insert, given_cons]
      by_cases heq : other = field
      · subst heq
        have hnone : given vars other = none := given_eq_none fun later hlater hnamed =>
          honce later hlater other hother hname hnamed
        rw [if_pos rfl, if_pos hname, hnone]
        rfl
      · rw [if_neg heq, if_neg fun hnamed => heq (hnamed.unique hname)]
  · -- A variable that is ignored is named after no field, for these lead somewhere.
    refine ⟨entries, ?_, ?_, ?_⟩
    · rw [addVariable, hignored, Option.elim_none]
    · rintro other hother ⟨later, hlater, hnamed⟩
      exact hunset other hother ⟨later, List.mem_cons_of_mem _ hlater, hnamed⟩
    · intro other hother
      have hnot : ¬Names var.1 other := by
        intro hnamed
        rw [path?_of_names hother hnamed] at hignored
        cases hignored
      rw [given_cons, if_neg hnot]

theorem exists_foldl_addVariable (h : NameFields vars) (hunset : Unset vars entries) :
    ∃ out : SortedMembers SettingValue,
      vars.foldl addVariable (.table entries.members) = .table out.members ∧
      ∀ field ∈ fieldNames, out.members.lookup field =
        (given vars field).or (entries.members.lookup field) := by
  induction vars generalizing entries with
  | nil => exact ⟨entries, rfl, fun _ _ => rfl⟩
  | cons var vars ih =>
    have hvars : NameFields vars :=
      ⟨fun var hvar => h.named var (List.mem_cons_of_mem _ hvar), (List.pairwise_cons.1 h.once).2⟩
    obtain ⟨after, hafter, hunsetAfter, hstep⟩ := exists_addVariable h hunset
    obtain ⟨out, hout, hlookup⟩ := ih hvars hunsetAfter
    rw [List.foldl_cons, hafter]
    refine ⟨out, hout, fun field hfield => ?_⟩
    rw [hlookup field hfield, hstep field hfield]

theorem exists_sorted_table (h : NameFields vars) :
    ∃ entries : SortedMembers SettingValue, table vars = .table entries.members ∧
      ∀ field ∈ fieldNames, entries.members.lookup field = given vars field := by
  have hunset : Unset vars .empty := fun _ _ _ => rfl
  obtain ⟨entries, htable, hlookup⟩ := exists_foldl_addVariable h hunset
  refine ⟨entries, (table_eq_foldl vars).trans htable, fun field hfield => ?_⟩
  rw [hlookup field hfield, SortedMembers.members_empty, List.lookup_nil, Option.or_none]

end Table

end JsonRules.Settings.Environment
