import JsonRules.Proofs.Json.RecordForm
import JsonRules.Proofs.Json.Symmetry
import JsonRules.Report

namespace JsonRules

theorem Json.filter_isNull_ne (o : Option Json) : o.filter (!·.isNull) ≠ some .null := by
  intro h
  obtain ⟨-, hnull⟩ := Option.filter_eq_some_iff.1 h
  cases hnull

theorem Json.filter_isNull_of_ne {o : Option Json} (h : o ≠ some .null) :
    o.filter (!·.isNull) = o := by
  rcases o with _ | v
  · rfl
  · cases v with
    | null => exact absurd rfl h
    | _ => rfl

namespace Detail

/-- What an object says of an entry. A missing rule and null are both no rule, and a missing mark is
one that is not set. Other members may be there as well. -/
structure IsWritten (object : Json) (d : Detail) : Prop where
  id : object.get? "ID" = some (.string d.id)
  title : object.get? "title" = some (.string d.title)
  command : object.get? "command" = some (.string d.command)
  rule : (object.get? "rule").filter (!·.isNull) = d.rule
  passed : object.get? "passed" = some (.bool d.passed)
  suppressed : (object.get? "suppressed").getD (.bool false) = .bool d.suppressed

variable {d : Detail}

theorem optionalBool_eq_ok_iff {members : Members Json} {key : String} {b : Bool} :
    RecordForm.optional members key Json.decodeBool false = .ok b ↔
      ((Json.object members).get? key).getD (.bool false) = .bool b := by
  rw [RecordForm.optional_eq_ok_iff, Json.get?]
  cases members.lookup key <;> simp [Json.decodeBool_eq_ok_iff]

/-- An entry is read from the fields of the form, whether an object has them or a list. -/
theorem ofJson_eq_ok_iff {v : Json} :
    ofJson v = .ok d ↔ ∃ fields, form.read v = .ok fields ∧ d.IsWritten (.object fields) := by
  rw [ofJson, Except.bind_eq_ok_iff]
  refine exists_congr fun fields => and_congr_right fun _ => ?_
  simp only [Except.bind_eq_ok_iff, Except.pure_eq_ok_iff, RecordForm.required_eq_ok_iff,
    optionalBool_eq_ok_iff, Json.decodeString_eq_ok_iff, Json.decodeBool_eq_ok_iff]
  constructor
  · rintro ⟨_, ⟨_, hid, rfl⟩, _, ⟨_, htitle, rfl⟩, _, ⟨_, hcommand, rfl⟩, _, ⟨_, hpassed, rfl⟩, _,
      hsuppressed, rfl⟩
    exact ⟨hid, htitle, hcommand, rfl, hpassed, hsuppressed⟩
  · intro h
    exact ⟨_, ⟨_, h.id, rfl⟩, _, ⟨_, h.title, rfl⟩, _, ⟨_, h.command, rfl⟩, _, ⟨_, h.passed, rfl⟩,
      _, h.suppressed, by rw [← Json.get?, h.rule]⟩

theorem form_check {key : String} {v : Json}
    (hstring : key ∈ ["ID", "title", "command"] → ∃ s, v = .string s)
    (hbool : key ∈ ["passed", "suppressed"] → ∃ b, v = .bool b) : form.check key v = .ok () := by
  rw [form]
  dsimp only
  split
  · next hkey =>
    obtain ⟨s, rfl⟩ := hstring hkey
    rfl
  · split
    · next hkey =>
      obtain ⟨b, rfl⟩ := hbool hkey
      rfl
    · rfl

section Object

variable (m : SortedMembers Json)

theorem IsWritten.read_form (h : d.IsWritten (.object m.members)) :
    form.read (.object m.members) = .ok m.members := by
  refine RecordForm.read_object_eq_ok_iff.2 ⟨fun entry hentry => ?_, fun name hname => ?_, rfl⟩
  · have hlookup := m.lookup_of_mem hentry
    apply form_check
    · intro hkey
      simp only [List.mem_cons, List.not_mem_nil, or_false] at hkey
      rcases hkey with hkey | hkey | hkey <;> rw [hkey] at hlookup
      · exact ⟨_, Option.some.inj (hlookup.symm.trans h.id)⟩
      · exact ⟨_, Option.some.inj (hlookup.symm.trans h.title)⟩
      · exact ⟨_, Option.some.inj (hlookup.symm.trans h.command)⟩
    · intro hkey
      simp only [List.mem_cons, List.not_mem_nil, or_false] at hkey
      rcases hkey with hkey | hkey <;> rw [hkey] at hlookup
      · exact ⟨_, Option.some.inj (hlookup.symm.trans h.passed)⟩
      · have hmark := h.suppressed
        rw [Json.get?, hlookup] at hmark
        exact ⟨_, hmark⟩
  · simp only [form, List.mem_cons, Prod.mk.injEq, and_true, Bool.true_eq_false, and_false,
      List.not_mem_nil, or_false, false_or] at hname
    obtain rfl | rfl | rfl | rfl := hname
    · exact ⟨_, h.id⟩
    · exact ⟨_, h.title⟩
    · exact ⟨_, h.command⟩
    · exact ⟨_, h.passed⟩

/-- Every object that writes an entry is accepted, with whatever other members it has. -/
theorem ofJson_object_eq_ok_iff :
    ofJson (.object m.members) = .ok d ↔ d.IsWritten (.object m.members) := by
  rw [ofJson_eq_ok_iff]
  constructor
  · rintro ⟨fields, hread, h⟩
    obtain ⟨-, -, rfl⟩ := RecordForm.read_object_eq_ok_iff.1 hread
    exact h
  · intro h
    exact ⟨m.members, h.read_form m, h⟩

end Object

/-- What an entry is written as says the same of it. Null would be read as no rule. -/
theorem isWritten_toJson (h : d.rule ≠ some .null) : d.IsWritten d.toJson := by
  have hrule := Json.filter_isNull_of_ne h
  obtain ⟨id, title, command, rule, passed, suppressed⟩ := d
  constructor <;> rw [toJson, Json.ofMembers, Json.get?, SortedMembers.lookup_ofList]
  case rule =>
    refine Eq.trans ?_ hrule
    congr 1
    cases rule <;> cases suppressed <;> rfl
  all_goals cases rule <;> cases suppressed <;> rfl

theorem rule_ne_null_of_ofJson {v : Json} (h : ofJson v = .ok d) : d.rule ≠ some .null := by
  obtain ⟨fields, -, hd⟩ := ofJson_eq_ok_iff.1 h
  exact hd.rule ▸ Json.filter_isNull_ne _

theorem ofJson_toJson_iff : ofJson d.toJson = .ok d ↔ d.rule ≠ some .null := by
  constructor
  · exact rule_ne_null_of_ofJson
  · intro h
    have hwritten := isWritten_toJson h
    obtain ⟨m, hm⟩ : ∃ m : SortedMembers Json, d.toJson = .object m.members := by
      rw [toJson]
      exact ⟨.ofList _, rfl⟩
    rw [hm] at hwritten ⊢
    exact (ofJson_object_eq_ok_iff m).2 hwritten

/-- Reading what the entry is written as gives the entry, which is written the same way again. -/
structure Survives (d : Detail) : Prop where
  ofJson_toJson : ofJson d.toJson = .ok d
  again : (ofJson d.toJson).map toJson = .ok d.toJson

theorem survives_iff : d.Survives ↔ d.rule ≠ some .null := by
  rw [← ofJson_toJson_iff]
  constructor
  · exact Survives.ofJson_toJson
  · intro h
    exact ⟨h, by rw [h, Except.map]⟩

end Detail

end JsonRules
