import JsonRules.Json.Decode
import JsonRules.Except

namespace JsonRules

theorem Json.decodeString_eq_ok_iff {v : Json} {s : String} :
    v.decodeString = .ok s ↔ v = .string s := by
  cases v <;> simp [decodeString, wrongType]

theorem Json.decodeBool_eq_ok_iff {v : Json} {b : Bool} :
    v.decodeBool = .ok b ↔ v = .bool b := by
  cases v <;> simp [decodeBool, wrongType]

namespace RecordForm

variable {form : RecordForm} {members : List (String × Json)}

theorem checkMembers_eq_ok_iff :
    form.checkMembers members = .ok () ↔ ∀ m ∈ members, form.check m.1 m.2 = .ok () := by
  induction members with
  | nil => simp [checkMembers]
  | cons m rest ih =>
    rw [checkMembers, Except.bind_unit_eq_ok_iff, List.forall_mem_cons, ih]

theorem missing?_eq_none_iff :
    form.missing? members = none ↔
      ∀ name, (name, true) ∈ form.fields → ∃ v, members.lookup name = some v := by
  simp only [missing?, Option.map_eq_none_iff, List.find?_eq_none, Prod.forall,
    Bool.and_eq_true, Option.isNone_iff_eq_none, ← Option.ne_none_iff_exists']
  constructor
  · intro h name hfield
    exact fun hlookup => h name true hfield ⟨rfl, hlookup⟩
  · rintro h name required hfield ⟨rfl, hlookup⟩
    exact h name hfield hlookup

/-- An object is read if its members have the right values and no required field is missing. -/
theorem read_object_eq_ok_iff {fields : List (String × Json)} :
    form.read (.object members) = .ok fields ↔
      (∀ m ∈ members, form.check m.1 m.2 = .ok ()) ∧
        (∀ name, (name, true) ∈ form.fields → ∃ v, members.lookup name = some v) ∧
          members = fields := by
  rw [read, Except.bind_unit_eq_ok_iff, checkMembers_eq_ok_iff, ← missing?_eq_none_iff]
  cases form.missing? members <;> simp

section Fields

variable {α : Type} {name : String} {decode : Json → Decoded α} {a : α}

theorem required_eq_ok_iff :
    required members name decode = .ok a ↔
      ∃ v, members.lookup name = some v ∧ decode v = .ok a := by
  rw [required]
  cases members.lookup name <;> simp

theorem optional_eq_ok_iff {default : α} :
    optional members name decode default = .ok a ↔
      members.lookup name = none ∧ default = a ∨
        ∃ v, members.lookup name = some v ∧ decode v = .ok a := by
  rw [optional]
  cases members.lookup name <;> simp

end Fields

end RecordForm

end JsonRules
