import JsonRules.Except
import JsonRules.Proofs.Rule.Tree
import JsonRules.Rule.Reader
import Mathlib.Data.List.Forall2

namespace JsonRules

namespace RuleHead

/-- All that is known of an object that was found to be a group. -/
theorem ofJson_eq_group {registry : Registry} {document : Json} {connective : Connective}
    {documents : List Json} (h : ofJson registry document = .ok (group connective documents)) :
    ∃ members, document = .object members ∧ readConnective members = .ok connective ∧
      readChildren members = .ok documents ∧
      checkArity connective documents.length = .ok () := by
  unfold ofJson at h
  split at h
  · next members =>
    dsimp only at h
    split at h
    · cases h
    · unfold readGroup at h
      split at h
      · cases h
      · cases h
      · next hconnective hchildren =>
        obtain ⟨u, harity, heq⟩ := Except.map_eq_ok_iff.1 h
        cases heq
        exact ⟨members, rfl, hconnective, hchildren, harity⟩
    · simp only [Except.map] at h
      split at h <;> cases h
    · cases h
  · cases h

theorem takes_of_checkArity {connective : Connective} {count : Nat}
    (h : checkArity connective count = .ok ()) : connective.Takes count := by
  cases connective <;> simpa [checkArity, Connective.Takes] using h

def groupDocument (name : String) (children : List Json) : Json :=
  .object [("children", .array children), ("operator", .string name)]

theorem ofJson_groupDocument {registry : Registry} {name : String} {connective : Connective}
    {children : List Json} (hname : Connective.ofText? name = some connective)
    (harity : checkArity connective children.length = .ok ()) :
    ofJson registry (groupDocument name children) = .ok (.group connective children) := by
  have hconnective : readConnective [("children", .array children), ("operator", .string name)] =
      .ok connective := by
    simp [readConnective, requiredString, List.lookup_cons, hname, bind, Except.bind, pure,
      Except.pure]
  have hgroup : readGroup [("children", .array children), ("operator", .string name)] =
      .ok (.group connective children) := by
    simp [readGroup, hconnective, readChildren, harity, Except.map]
  simpa [ofJson, groupDocument, Members.contains, List.lookup_cons] using hgroup

def checkDocument (command path : String) : Json :=
  .object [("command", .string command), ("selector", .string path)]

def plainCheck (command path : String) (segments : List Segment) (test : Test) : Check where
  selector := ⟨path, segments⟩
  command := command
  arguments := .null
  description := command ++ "@" ++ path
  comment := ""
  test := test
  document := checkDocument command path

theorem ofJson_checkDocument {registry : Registry} {command path : String}
    {segments : List Segment} {test : Test} (hpath : Selector.ofText path = .ok ⟨path, segments⟩)
    (htest : prepare registry command .null = .ok test) :
    ofJson registry (checkDocument command path) =
      .ok (.check (plainCheck command path segments test)) := by
  have hcheck : readCheck registry [("command", .string command), ("selector", .string path)] =
      .ok (plainCheck command path segments test) := by
    simp [readCheck, requiredString, optionalString, readSelector, hpath, List.lookup_cons, htest,
      plainCheck, checkDocument, bind, Except.bind, pure, Except.pure, Except.mapError]
  simp [ofJson, checkDocument, Members.contains, List.lookup_cons, hcheck, Except.map]

end RuleHead

namespace Rule

/-- The rule that a document reads as, whatever the way to it. -/
inductive Reads (registry : Registry) : Json → Rule → Prop
  | check {document : Json} {c : Check} :
      RuleHead.ofJson registry document = .ok (.check c) → Reads registry document (.check c)
  | group {document : Json} {connective : Connective} {documents : List Json}
      {children : List Rule} :
      RuleHead.ofJson registry document = .ok (.group connective documents) →
        List.Forall₂ (Reads registry) documents children →
        Reads registry document (.group connective children)

section Reading

variable {registry : Registry}

theorem ofJson_of_error {path : List Nat} {document : Json} {fault : RuleFault}
    (h : RuleHead.ofJson registry document = .error fault) :
    ofJson registry path document = .error ⟨path, fault⟩ := by
  rw [ofJson]
  split <;> simp_all

theorem ofJson_of_check {path : List Nat} {document : Json} {c : Check}
    (h : RuleHead.ofJson registry document = .ok (.check c)) :
    ofJson registry path document = .ok (.check c) := by
  rw [ofJson]
  split <;> simp_all

theorem ofJson_of_group {path : List Nat} {document : Json} {connective : Connective}
    {documents : List Json}
    (h : RuleHead.ofJson registry document = .ok (.group connective documents)) :
    ofJson registry path document =
      (ofChildren registry path 0 documents).map (.group connective) := by
  rw [ofJson]
  split <;> simp_all

mutual

theorem reads_of_ofJson {path : List Nat} {document : Json} {r : Rule}
    (h : ofJson registry path document = .ok r) : Reads registry document r := by
  rw [ofJson] at h
  split at h
  · cases h
  · next c hhead => cases h; exact .check hhead
  · next connective documents hhead =>
    have := RuleHead.sizeOf_children_lt hhead
    obtain ⟨children, hchildren, rfl⟩ := Except.map_eq_ok_iff.1 h
    exact .group hhead (reads_of_ofChildren hchildren)
termination_by sizeOf document

theorem reads_of_ofChildren {path : List Nat} {i : Nat} {documents : List Json} {rules : List Rule}
    (h : ofChildren registry path i documents = .ok rules) :
    List.Forall₂ (Reads registry) documents rules := by
  cases documents with
  | nil =>
    rw [ofChildren] at h
    cases h
    exact .nil
  | cons document rest =>
    rw [ofChildren] at h
    split at h
    · cases h
    · next r hr =>
      obtain ⟨others, hothers, rfl⟩ := Except.map_eq_ok_iff.1 h
      exact .cons (reads_of_ofJson hr) (reads_of_ofChildren hothers)
termination_by sizeOf documents

end

mutual

theorem ofJson_of_reads {path : List Nat} {document : Json} {r : Rule}
    (h : Reads registry document r) :
    ofJson registry path document = .ok r := by
  cases r with
  | check c =>
    cases h with
    | check hhead => exact ofJson_of_check hhead
  | group connective children =>
    cases h with
    | group hhead hchildren =>
      rw [ofJson_of_group hhead, ofChildren_of_reads hchildren]
      rfl

theorem ofChildren_of_reads {path : List Nat} {i : Nat} {documents : List Json} {rules : List Rule}
    (h : List.Forall₂ (Reads registry) documents rules) :
    ofChildren registry path i documents = .ok rules := by
  cases rules with
  | nil =>
    cases h
    rw [ofChildren]
  | cons r rest =>
    cases h with
    | cons hr hrest =>
      rw [ofChildren, ofJson_of_reads hr, ofChildren_of_reads hrest]
      rfl

end

theorem Reads.exists_head {document : Json} {r : Rule} (h : Reads registry document r) :
    ∃ head, RuleHead.ofJson registry document = .ok head := by
  cases h with
  | check hhead => exact ⟨_, hhead⟩
  | group hhead _ => exact ⟨_, hhead⟩

mutual

theorem Reads.proper {document : Json} {r : Rule} (h : Reads registry document r) : r.Proper := by
  cases r with
  | check c => exact .check c
  | group connective children =>
    cases h with
    | group hhead hchildren =>
      obtain ⟨members, -, -, -, harity⟩ := RuleHead.ofJson_eq_group hhead
      have htakes := RuleHead.takes_of_checkArity harity
      rw [hchildren.length_eq] at htakes
      exact .group htakes (proper_of_forall₂_reads hchildren)

theorem proper_of_forall₂_reads {documents : List Json} {rules : List Rule}
    (h : List.Forall₂ (Reads registry) documents rules) : ∀ r ∈ rules, r.Proper := by
  cases rules with
  | nil => simp
  | cons r rest =>
    cases h with
    | cons hr hrest =>
      rw [List.forall_mem_cons]
      exact ⟨hr.proper, proper_of_forall₂_reads hrest⟩

end

/-- No document reads as a rule that has an empty group or a negation of several children. -/
theorem proper_of_ofDocument {document : Json} {r : Rule}
    (h : ofDocument registry document = .ok r) : r.Proper :=
  (reads_of_ofJson h).proper

end Reading

end Rule

end JsonRules
