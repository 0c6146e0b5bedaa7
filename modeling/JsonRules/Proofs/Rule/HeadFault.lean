import JsonRules.Proofs.Rule.Head

namespace JsonRules

def Json.IsGroup (document : Json) : Prop :=
  document.get? "operator" ≠ none ∧ document.get? "command" = none ∧
    document.get? "selector" = none

def Json.IsCheck (document : Json) : Prop :=
  document.get? "operator" = none ∧
    (document.get? "command" ≠ none ∨ document.get? "selector" ≠ none)

/-- The faults that a document has by itself, whatever the children of a group are. -/
inductive RuleFault.Of (registry : Registry) : Json → RuleFault → Prop
  | notObject {v : Json} : (∀ members, v ≠ .object members) → Of registry v (.notObject v.kindName)
  | mixed {document : Json} : document.get? "operator" ≠ none →
      (document.get? "command" ≠ none ∨ document.get? "selector" ≠ none) →
      Of registry document .mixed
  | neither {document : Json} : document.get? "operator" = none →
      document.get? "command" = none → document.get? "selector" = none →
      Of registry document .neither
  | operatorNotString {document v : Json} : document.IsGroup →
      document.get? "operator" = some v → (∀ s, v ≠ .string s) →
      Of registry document (.notString "operator" v.kindName)
  | unknownConnective {document : Json} {text : String} : document.IsGroup →
      document.get? "operator" = some (.string text) → (∀ c : Connective, ¬ c.IsNamed text) →
      Of registry document (.unknownConnective text)
  | noChildren {document : Json} : document.IsGroup → document.get? "children" = none →
      Of registry document (.missing "children")
  | childrenNotArray {document v : Json} : document.IsGroup →
      document.get? "children" = some v → (∀ items, v ≠ .array items) →
      Of registry document (.childrenNotArray v.kindName)
  | notOneChild {document : Json} {text : String} {children : List Json} : document.IsGroup →
      document.get? "operator" = some (.string text) → Connective.not.IsNamed text →
      document.get? "children" = some (.array children) → children.length ≠ 1 →
      Of registry document (.notOneChild children.length)
  | noChild {document : Json} {text : String} {connective : Connective} : document.IsGroup →
      document.get? "operator" = some (.string text) → connective.IsNamed text →
      connective ≠ .not → document.get? "children" = some (.array []) →
      Of registry document (.noChild connective)
  | missing {document : Json} {key : String} : document.IsCheck → key ∈ ["selector", "command"] →
      document.get? key = none → Of registry document (.missing key)
  | notString {document v : Json} {key : String} : document.IsCheck →
      key ∈ ["selector", "command"] → document.get? key = some v → (∀ s, v ≠ .string s) →
      Of registry document (.notString key v.kindName)
  | notText {document v : Json} {key : String} : document.IsCheck →
      key ∈ ["description", "comment"] → document.get? key = some v → v ≠ .null →
      (∀ s, v ≠ .string s) → Of registry document (.notString key v.kindName)
  | badSelector {document : Json} {text : String} {fault : Selector.Fault} : document.IsCheck →
      document.get? "selector" = some (.string text) → Selector.ofText text = .error fault →
      Of registry document (.badSelector text fault)
  | unknownCommand {document : Json} {command : String} : document.IsCheck →
      document.get? "command" = some (.string command) → registry.find? command = none →
      Of registry document (.unknownCommand command)
  | badArguments {document : Json} {command : String} {c : Command} {fault : ArgumentFault} :
      document.IsCheck → document.get? "command" = some (.string command) →
      registry.find? command = some c →
      c.prepare ((document.get? "arguments").getD .null) = .error fault →
      Of registry document (.badArguments command fault)

namespace RuleHead

section Fields

variable {members : Members Json} {key : String} {fault : RuleFault}

theorem contains_eq_true_iff : Members.contains members key = true ↔
    (Json.object members).get? key ≠ none := by
  rw [Members.contains, Option.isSome_iff_ne_none]
  rfl

theorem requiredString_eq_error (h : requiredString members key = .error fault) :
    members.lookup key = none ∧ fault = .missing key ∨
      ∃ v, members.lookup key = some v ∧ (∀ s, v ≠ .string s) ∧
        fault = .notString key v.kindName := by
  unfold requiredString at h
  split at h
  · cases h
  · next v hv hlookup =>
    cases h
    exact .inr ⟨v, hlookup, hv, rfl⟩
  · next hlookup =>
    cases h
    exact .inl ⟨hlookup, rfl⟩

theorem optionalString_eq_error (h : optionalString members key = .error fault) :
    ∃ v, members.lookup key = some v ∧ v ≠ .null ∧ (∀ s, v ≠ .string s) ∧
      fault = .notString key v.kindName := by
  unfold optionalString at h
  split at h
  · cases h
  · cases h
  · cases h
  · next v hnull hstring hlookup =>
    cases h
    exact ⟨v, hlookup, hnull, hstring, rfl⟩

end Fields

section Faults

variable {registry : Registry} {members : Members Json} {fault : RuleFault}

theorem readConnective_eq_error (h : readConnective members = .error fault) :
    requiredString members "operator" = .error fault ∨
      ∃ text, members.lookup "operator" = some (.string text) ∧
        (∀ c : Connective, ¬ c.IsNamed text) ∧ fault = .unknownConnective text := by
  rw [readConnective, Except.bind_eq_error_iff] at h
  obtain h | ⟨text, htext, h⟩ := h
  · exact .inl h
  · refine .inr ⟨text, requiredString_eq_ok_iff.1 htext, ?_⟩
    split at h
    · cases h
    · next hnone =>
      cases h
      refine ⟨fun c hc => ?_, rfl⟩
      rw [← Connective.ofText?_eq_some_iff, hnone] at hc
      cases hc

theorem readChildren_eq_error (h : readChildren members = .error fault) :
    members.lookup "children" = none ∧ fault = .missing "children" ∨
      ∃ v, members.lookup "children" = some v ∧ (∀ items, v ≠ .array items) ∧
        fault = .childrenNotArray v.kindName := by
  unfold readChildren at h
  split at h
  · cases h
  · next v hv hlookup =>
    cases h
    exact .inr ⟨v, hlookup, hv, rfl⟩
  · next hlookup =>
    cases h
    exact .inl ⟨hlookup, rfl⟩

theorem checkArity_eq_error {connective : Connective} {count : Nat}
    (h : checkArity connective count = .error fault) :
    connective = .not ∧ count ≠ 1 ∧ fault = .notOneChild count ∨
      connective ≠ .not ∧ count = 0 ∧ fault = .noChild connective := by
  unfold checkArity at h
  split at h
  · split at h
    · cases h
    · next hcount => cases h; exact .inl ⟨rfl, hcount, rfl⟩
  · next hnot =>
    split at h
    · next hcount => cases h; exact .inr ⟨hnot, hcount, rfl⟩
    · cases h

theorem readGroup_eq_error (h : readGroup members = .error fault) :
    readConnective members = .error fault ∨ readChildren members = .error fault ∨
      ∃ connective children, readConnective members = .ok connective ∧
        readChildren members = .ok children ∧
        checkArity connective children.length = .error fault := by
  unfold readGroup at h
  split at h
  · next hconnective => cases h; exact .inl hconnective
  · next hchildren _ => cases h; exact .inr (.inl hchildren)
  · next hconnective hchildren =>
    rw [Except.map_eq_error_iff] at h
    exact .inr (.inr ⟨_, _, hconnective, hchildren, h⟩)

theorem of_readGroup_eq_error (hgroup : (Json.object members).IsGroup)
    (h : readGroup members = .error fault) : fault.Of registry (.object members) := by
  obtain hconnective | hchildren | ⟨connective, children, hconnective, hchildren, harity⟩ :=
    readGroup_eq_error h
  · obtain hoperator | ⟨text, htext, hnone, rfl⟩ := readConnective_eq_error hconnective
    · obtain ⟨hmissing, -⟩ | ⟨v, hv, hstring, rfl⟩ := requiredString_eq_error hoperator
      · exact absurd hmissing hgroup.1
      · exact .operatorNotString hgroup hv hstring
    · exact .unknownConnective hgroup htext hnone
  · obtain ⟨hmissing, rfl⟩ | ⟨v, hv, harray, rfl⟩ := readChildren_eq_error hchildren
    · exact .noChildren hgroup hmissing
    · exact .childrenNotArray hgroup hv harray
  · obtain ⟨text, htext, hnamed⟩ := readConnective_eq_ok_iff.1 hconnective
    rw [readChildren_eq_ok_iff] at hchildren
    obtain ⟨rfl, hcount, rfl⟩ | ⟨hnot, hcount, rfl⟩ := checkArity_eq_error harity
    · exact .notOneChild hgroup htext hnamed hchildren hcount
    · rw [List.length_eq_zero_iff] at hcount
      exact .noChild hgroup htext hnamed hnot (hcount ▸ hchildren)

theorem of_requiredString_eq_error {key : String} (hcheck : (Json.object members).IsCheck)
    (hkey : key ∈ ["selector", "command"]) (h : requiredString members key = .error fault) :
    fault.Of registry (.object members) := by
  obtain ⟨hmissing, rfl⟩ | ⟨v, hv, hstring, rfl⟩ := requiredString_eq_error h
  · exact .missing hcheck hkey hmissing
  · exact .notString hcheck hkey hv hstring

theorem of_optionalString_eq_error {key : String} (hcheck : (Json.object members).IsCheck)
    (hkey : key ∈ ["description", "comment"]) (h : optionalString members key = .error fault) :
    fault.Of registry (.object members) := by
  obtain ⟨v, hv, hnull, hstring, rfl⟩ := optionalString_eq_error h
  exact .notText hcheck hkey hv hnull hstring

theorem of_prepare_eq_error {command : String} (hcheck : (Json.object members).IsCheck)
    (hcommand : members.lookup "command" = some (.string command))
    (h : prepare registry command ((members.lookup "arguments").getD .null) = .error fault) :
    fault.Of registry (.object members) := by
  unfold prepare at h
  split at h
  · next hfind =>
    cases h
    exact .unknownCommand hcheck hcommand hfind
  · next c hfind =>
    obtain ⟨argumentFault, hfault, rfl⟩ := Except.mapError_eq_error_iff.1 h
    exact .badArguments hcheck hcommand hfind hfault

theorem of_readCheck_eq_error (hcheck : (Json.object members).IsCheck)
    (h : readCheck registry members = .error fault) : fault.Of registry (.object members) := by
  simp only [readCheck, Except.bind_eq_error_iff] at h
  obtain h | ⟨text, htext, h | ⟨command, hcommand, h | ⟨selector, hselector, h | ⟨test, htest, h |
    ⟨description, hdescription, h | ⟨comment, hcomment, h⟩⟩⟩⟩⟩⟩ := h
  · exact of_requiredString_eq_error hcheck (by simp) h
  · exact of_requiredString_eq_error hcheck (by simp) h
  · obtain ⟨selectorFault, hfault, rfl⟩ := Except.mapError_eq_error_iff.1 h
    exact .badSelector hcheck (requiredString_eq_ok_iff.1 htext) hfault
  · exact of_prepare_eq_error hcheck (requiredString_eq_ok_iff.1 hcommand) h
  · exact of_optionalString_eq_error hcheck (by simp) h
  · exact of_optionalString_eq_error hcheck (by simp) h
  · cases h

/-- The fault that a document is refused for by itself is one that it has. -/
theorem of_ofJson_eq_error {document : Json} (h : ofJson registry document = .error fault) :
    fault.Of registry document := by
  unfold ofJson at h
  split at h
  · next members =>
    dsimp only at h
    split at h
    · next hgroup hcheck =>
      cases h
      rw [Bool.or_eq_true, contains_eq_true_iff, contains_eq_true_iff] at hcheck
      exact .mixed (contains_eq_true_iff.1 hgroup) hcheck
    · next hgroup hcheck =>
      rw [Bool.or_eq_false_iff, contains_eq_false_iff, contains_eq_false_iff] at hcheck
      exact of_readGroup_eq_error ⟨contains_eq_true_iff.1 hgroup, hcheck⟩ h
    · next hgroup hcheck =>
      rw [Bool.or_eq_true, contains_eq_true_iff, contains_eq_true_iff] at hcheck
      rw [Except.map_eq_error_iff] at h
      exact of_readCheck_eq_error ⟨contains_eq_false_iff.1 hgroup, hcheck⟩ h
    · next hgroup hcheck =>
      cases h
      rw [Bool.or_eq_false_iff, contains_eq_false_iff, contains_eq_false_iff] at hcheck
      exact .neither (contains_eq_false_iff.1 hgroup) hcheck.1 hcheck.2
  · next hobject =>
    cases h
    exact .notObject hobject

end Faults

section Sound

variable {registry : Registry} {document : Json} {fault : RuleFault}

theorem not_mayHave_string {key : String} {o : Option String} {v : Json}
    (h : document.MayHave .string key o) (hv : document.get? key = some v) (hnull : v ≠ .null)
    (hstring : ∀ s, v ≠ .string s) : False := by
  cases h with
  | missing hget => cases hget.symm.trans hv
  | null hget => cases hget.symm.trans hv; exact hnull rfl
  | given hget => cases hget.symm.trans hv; exact hstring _ rfl

theorem not_of_isWritten {c : Check} (hoperator : document.get? "operator" = none)
    (h : c.IsWritten registry document) : ¬ fault.Of registry document := by
  have hprepare := prepare_eq_ok_iff.2 h.test
  intro hfault
  cases hfault with
  | notObject hobject =>
    obtain ⟨members, rfl⟩ := Json.exists_object_of_get? h.command
    exact hobject members rfl
  | mixed hsome _ => exact hsome hoperator
  | neither _ hcommand _ => cases h.command.symm.trans hcommand
  | operatorNotString hgroup _ _ | unknownConnective hgroup _ _ | noChildren hgroup _
  | childrenNotArray hgroup _ _ | notOneChild hgroup _ _ _ _ | noChild hgroup _ _ _ _ =>
    exact hgroup.1 hoperator
  | missing _ hkey hmissing =>
    rw [List.mem_cons, List.mem_singleton] at hkey
    obtain rfl | rfl := hkey
    · cases h.selector.symm.trans hmissing
    · cases h.command.symm.trans hmissing
  | notString _ hkey hv hstring =>
    rw [List.mem_cons, List.mem_singleton] at hkey
    obtain rfl | rfl := hkey
    · cases h.selector.symm.trans hv
      exact hstring _ rfl
    · cases h.command.symm.trans hv
      exact hstring _ rfl
  | notText _ hkey hv hnull hstring =>
    rw [List.mem_cons, List.mem_singleton] at hkey
    obtain rfl | rfl := hkey
    · obtain ⟨o, ho, -⟩ := h.description
      exact not_mayHave_string ho hv hnull hstring
    · obtain ⟨o, ho, -⟩ := h.comment
      exact not_mayHave_string ho hv hnull hstring
  | badSelector _ htext hread =>
    cases h.selector.symm.trans htext
    cases (Selector.denotes_iff.1 h.denotes).symm.trans hread
  | unknownCommand _ hcommand hfind =>
    cases h.command.symm.trans hcommand
    simp [prepare, hfind] at hprepare
  | badArguments _ hcommand hfind harguments =>
    cases h.command.symm.trans hcommand
    rw [← h.arguments] at harguments
    simp [prepare, hfind, harguments, Except.mapError] at hprepare

theorem not_of_group {text : String} {connective : Connective} {children : List Json}
    (hoperator : document.get? "operator" = some (.string text))
    (hcommand : document.get? "command" = none) (hselector : document.get? "selector" = none)
    (hnamed : connective.IsNamed text)
    (hchildren : document.get? "children" = some (.array children))
    (htakes : connective.Takes children.length) : ¬ fault.Of registry document := by
  intro hfault
  cases hfault with
  | notObject hobject =>
    obtain ⟨members, rfl⟩ := Json.exists_object_of_get? hoperator
    exact hobject members rfl
  | mixed _ hsome => exact hsome.elim (· hcommand) (· hselector)
  | neither hnone _ _ => cases hoperator.symm.trans hnone
  | operatorNotString _ hv hstring =>
    cases hoperator.symm.trans hv
    exact hstring _ rfl
  | unknownConnective _ htext hnone =>
    cases hoperator.symm.trans htext
    exact hnone _ hnamed
  | noChildren _ hnone => cases hchildren.symm.trans hnone
  | childrenNotArray _ hv harray =>
    cases hchildren.symm.trans hv
    exact harray _ rfl
  | notOneChild _ htext hnot harray hcount =>
    cases hoperator.symm.trans htext
    cases hchildren.symm.trans harray
    cases hnamed.unique hnot
    exact hcount htakes
  | noChild _ htext hother hnot harray =>
    cases hoperator.symm.trans htext
    cases hchildren.symm.trans harray
    cases hnamed.unique hother
    cases connective with
    | not => exact hnot rfl
    | all | any => exact htakes rfl
  | missing hcheck _ _ | notString hcheck _ _ _ | notText hcheck _ _ _ _ | badSelector hcheck _ _
  | unknownCommand hcheck _ _ | badArguments hcheck _ _ _ =>
    cases hoperator.symm.trans hcheck.1

/-- A document that is accepted by itself has none of the faults. -/
theorem not_of_ofJson_eq_ok {head : RuleHead} (h : ofJson registry document = .ok head) :
    ¬ fault.Of registry document := by
  cases ofJson_eq_ok_iff.1 h with
  | check hoperator hwritten => exact not_of_isWritten hoperator hwritten
  | group hoperator hcommand hselector hnamed hchildren htakes =>
    exact not_of_group hoperator hcommand hselector hnamed hchildren htakes

end Sound

end RuleHead

end JsonRules
