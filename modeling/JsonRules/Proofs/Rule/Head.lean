import JsonRules.Proofs.Rule.Document
import JsonRules.Proofs.Rule.Reading
import JsonRules.Proofs.Selector.Reading
import JsonRules.Proofs.Test.Arguments

namespace JsonRules

/-- A connective is named by its word, whatever the case of the letters. -/
def Connective.IsNamed (c : Connective) (text : String) : Prop :=
  text.map Char.toUpper = c.name

/-- The arguments that a command of the registry takes, and the test that it makes of them. -/
inductive Registry.Binds (registry : Registry) (command : String) (arguments : Json) : Test → Prop
  | builtin {b : Builtin} {t : Test} :
      registry.find? command = some (.builtin b) → b.Binds arguments t →
        Binds registry command arguments t
  | custom {predicate : Predicate} :
      registry.find? command = some (.custom predicate) →
        Binds registry command arguments (.custom predicate arguments)

structure Check.IsWritten (registry : Registry) (object : Json) (c : Check) : Prop where
  selector : object.get? "selector" = some (.string c.selector.text)
  denotes : Selector.Denotes c.selector.text c.selector.segments
  command : object.get? "command" = some (.string c.command)
  arguments : c.arguments = (object.get? "arguments").getD .null
  test : registry.Binds c.command c.arguments c.test
  description : ∃ o, object.MayHave .string "description" o ∧
    c.description = o.getD (c.command ++ "@" ++ c.selector.text)
  comment : ∃ o, object.MayHave .string "comment" o ∧ c.comment = o.getD ""
  document : c.document = object

/-- What a document writes by itself, whatever the children of a group are. -/
inductive RuleHead.Spelled (registry : Registry) : Json → RuleHead → Prop
  | check {document : Json} {c : Check} :
      document.get? "operator" = none → c.IsWritten registry document →
        Spelled registry document (.check c)
  | group {document : Json} {text : String} {connective : Connective} {children : List Json} :
      document.get? "operator" = some (.string text) → document.get? "command" = none →
        document.get? "selector" = none → connective.IsNamed text →
        document.get? "children" = some (.array children) → connective.Takes children.length →
        Spelled registry document (.group connective children)

theorem RuleHead.Spelled.ruleChildren_eq {registry : Registry} {document : Json}
    {connective : Connective} {children : List Json}
    (h : Spelled registry document (.group connective children)) :
    document.ruleChildren = children := by
  cases h with
  | group hoperator _ _ _ hchildren _ => exact Json.ruleChildren_eq hoperator hchildren

theorem Json.checkObjects_groupDocument (name : String) (children : List Json) :
    (RuleHead.groupDocument name children).checkObjects = children.flatMap checkObjects :=
  checkObjects_of_group rfl

theorem Connective.ofText?_eq_some_iff {c : Connective} {text : String} :
    ofText? text = some c ↔ c.IsNamed text := by
  rw [IsNamed, ofText?]
  split
  · next h => rw [h]; cases c <;> simp [name]
  · next h => rw [h]; cases c <;> simp [name]
  · next h => rw [h]; cases c <;> simp [name]
  · next hall hany hnot =>
    cases c with
    | all => simpa [name] using hall
    | any => simpa [name] using hany
    | not => simpa [name] using hnot

theorem Connective.IsNamed.unique {c d : Connective} {text : String} (hc : c.IsNamed text)
    (hd : d.IsNamed text) : c = d := by
  have hsame := (ofText?_eq_some_iff.2 hc).symm.trans (ofText?_eq_some_iff.2 hd)
  exact Option.some.inj hsame

namespace RuleHead

section Fields

variable {members : Members Json} {key : String}

theorem contains_eq_false_iff : Members.contains members key = false ↔
    members.lookup key = none := by
  rw [Members.contains, Option.isSome_eq_false_iff, Option.isNone_iff_eq_none]

theorem contains_of_lookup {v : Json} (h : members.lookup key = some v) :
    Members.contains members key = true := by
  rw [Members.contains, h, Option.isSome_some]

theorem requiredString_eq_ok_iff {s : String} :
    requiredString members key = .ok s ↔ members.lookup key = some (.string s) := by
  constructor
  · intro h
    unfold requiredString at h
    split at h
    · next hlookup => cases h; exact hlookup
    · cases h
    · cases h
  · intro h
    rw [requiredString, h]

theorem optionalString_eq_ok_iff {o : Option String} :
    optionalString members key = .ok o ↔ (Json.object members).MayHave .string key o := by
  constructor
  · intro h
    unfold optionalString at h
    split at h
    · next hlookup => cases h; exact .missing hlookup
    · next hlookup => cases h; exact .null hlookup
    · next hlookup => cases h; exact .given hlookup
    · cases h
  · rintro (hget | hget | hget) <;> rw [Json.get?] at hget <;> rw [optionalString, hget]

end Fields

section Groups

variable {members : Members Json} {connective : Connective}

theorem checkArity_eq_ok_iff {count : Nat} {u : Unit} :
    checkArity connective count = .ok u ↔ connective.Takes count := by
  cases connective <;> simp [checkArity, Connective.Takes]

theorem readConnective_eq_ok_iff :
    readConnective members = .ok connective ↔
      ∃ text, members.lookup "operator" = some (.string text) ∧ connective.IsNamed text := by
  simp only [readConnective, Except.bind_eq_ok_iff, requiredString_eq_ok_iff,
    ← Connective.ofText?_eq_some_iff]
  refine exists_congr fun text => and_congr_right fun _ => ?_
  rcases Connective.ofText? text with _ | c <;> simp [throw, throwThe, MonadExceptOf.throw, pure,
    Except.pure]

theorem readChildren_eq_ok_iff {children : List Json} :
    readChildren members = .ok children ↔
      members.lookup "children" = some (.array children) := by
  constructor
  · intro h
    unfold readChildren at h
    split at h
    · next hlookup => cases h; exact hlookup
    · cases h
    · cases h
  · intro h
    rw [readChildren, h]

theorem readGroup_eq_ok_iff {head : RuleHead} :
    readGroup members = .ok head ↔
      ∃ connective children, readConnective members = .ok connective ∧
        readChildren members = .ok children ∧ connective.Takes children.length ∧
        group connective children = head := by
  unfold readGroup
  rcases hconnective : readConnective members with _ | connective
  · simp
  rcases hchildren : readChildren members with _ | children
  · simp
  · simp [Except.map_eq_ok_iff, checkArity_eq_ok_iff]

end Groups

section Checks

variable {registry : Registry} {members : Members Json}

theorem readSelector_of_ofText {text : String} {s : Selector} (h : Selector.ofText text = .ok s) :
    readSelector text = .ok s := by
  rw [readSelector, Except.mapError_eq_ok_iff, h]

theorem readSelector_eq_ok_iff {text : String} {s : Selector} :
    readSelector text = .ok s ↔ s.text = text ∧ Selector.Denotes text s.segments := by
  rw [readSelector, Except.mapError_eq_ok_iff, Selector.denotes_iff]
  constructor
  · intro h
    obtain ⟨segments, -, rfl⟩ := Except.map_eq_ok_iff.1 h
    exact ⟨rfl, h⟩
  · rintro ⟨rfl, h⟩
    exact h

theorem prepare_eq_ok_iff {command : String} {arguments : Json} {t : Test} :
    prepare registry command arguments = .ok t ↔ registry.Binds command arguments t := by
  unfold prepare
  constructor
  · intro h
    split at h
    · cases h
    · next c hfind =>
      rw [Except.mapError_eq_ok_iff] at h
      cases c with
      | builtin b => exact .builtin hfind (Builtin.prepare_eq_ok_iff.1 h)
      | custom predicate =>
        cases h
        exact .custom hfind
  · rintro (⟨hfind, hbinds⟩ | hfind)
    · simp only [hfind, Except.mapError_eq_ok_iff]
      exact Builtin.prepare_eq_ok_iff.2 hbinds
    · simp only [hfind, Except.mapError_eq_ok_iff]
      rfl

theorem readCheck_eq_ok_iff {c : Check} :
    readCheck registry members = .ok c ↔ c.IsWritten registry (.object members) := by
  simp only [readCheck, Except.bind_eq_ok_iff, requiredString_eq_ok_iff, readSelector_eq_ok_iff,
    prepare_eq_ok_iff, optionalString_eq_ok_iff, Except.pure_eq_ok_iff]
  constructor
  · rintro ⟨text, htext, command, hcommand, selector, ⟨rfl, hdenotes⟩, test, htest, description,
      hdescription, comment, hcomment, rfl⟩
    exact ⟨htext, hdenotes, hcommand, rfl, htest, ⟨_, hdescription, rfl⟩, ⟨_, hcomment, rfl⟩, rfl⟩
  · intro h
    obtain ⟨description, hdescription, hdescribed⟩ := h.description
    obtain ⟨comment, hcomment, hcommented⟩ := h.comment
    have harguments : c.arguments = (members.lookup "arguments").getD .null := h.arguments
    refine ⟨_, h.selector, _, h.command, _, ⟨rfl, h.denotes⟩, _, harguments ▸ h.test, _,
      hdescription, _, hcomment, ?_⟩
    rw [← harguments, ← hdescribed, ← hcommented, ← h.document]

end Checks

/-- What a document is found to say by itself is what it spells. -/
theorem ofJson_eq_ok_iff {registry : Registry} {document : Json} {head : RuleHead} :
    ofJson registry document = .ok head ↔ Spelled registry document head := by
  constructor
  · intro h
    unfold ofJson at h
    split at h
    · next members =>
      dsimp only at h
      split at h
      · cases h
      · next hcheck =>
        rw [Bool.or_eq_false_iff, contains_eq_false_iff, contains_eq_false_iff] at hcheck
        obtain ⟨connective, children, hconnective, hchildren, htakes, rfl⟩ :=
          readGroup_eq_ok_iff.1 h
        obtain ⟨text, htext, hnamed⟩ := readConnective_eq_ok_iff.1 hconnective
        exact .group htext hcheck.1 hcheck.2 hnamed (readChildren_eq_ok_iff.1 hchildren) htakes
      · next hgroup _ =>
        obtain ⟨c, hc, rfl⟩ := Except.map_eq_ok_iff.1 h
        exact .check (contains_eq_false_iff.1 hgroup) (readCheck_eq_ok_iff.1 hc)
      · cases h
    · cases h
  · rintro (⟨hoperator, hc⟩ | ⟨htext, hcommand, hselector, hnamed, hchildren, htakes⟩)
    · obtain ⟨members, rfl⟩ := Json.exists_object_of_get? hc.command
      have hread := readCheck_eq_ok_iff.2 hc
      simp [ofJson, contains_eq_false_iff.2 hoperator, contains_of_lookup hc.command, hread,
        Except.map]
    · obtain ⟨members, rfl⟩ := Json.exists_object_of_get? htext
      have hread : readGroup members = .ok (.group _ _) := readGroup_eq_ok_iff.2
        ⟨_, _, readConnective_eq_ok_iff.2 ⟨_, htext, hnamed⟩, readChildren_eq_ok_iff.2 hchildren,
          htakes, rfl⟩
      simp [ofJson, contains_of_lookup htext, contains_eq_false_iff.2 hcommand,
        contains_eq_false_iff.2 hselector, hread]

end RuleHead

end JsonRules
