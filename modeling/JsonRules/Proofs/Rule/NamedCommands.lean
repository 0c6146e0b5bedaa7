import JsonRules.Proofs.Rule.Head

namespace JsonRules

def Json.NamesCommand (document : Json) (name : String) : Prop :=
  ∃ path node, document.ruleNode? path = some node ∧ node.get? "command" = some (.string name)

theorem Json.NamesCommand.of_child {document child : Json} {name : String}
    (hchild : child ∈ document.ruleChildren) (h : child.NamesCommand name) :
    document.NamesCommand name := by
  obtain ⟨path, node, hnode, hcommand⟩ := h
  obtain ⟨i, hi⟩ := List.getElem?_of_mem hchild
  refine ⟨i :: path, node, ?_, hcommand⟩
  rw [ruleNode?, hi]
  exact hnode

/-- The names that a document uses are its own, if it has one, and those of its children. -/
theorem Json.namesCommand_iff {document : Json} {name : String} :
    document.NamesCommand name ↔ document.get? "command" = some (.string name) ∨
      ∃ child ∈ document.ruleChildren, child.NamesCommand name := by
  constructor
  · rintro ⟨path, node, hnode, hcommand⟩
    cases path with
    | nil =>
      cases hnode
      exact .inl hcommand
    | cons i path =>
      obtain ⟨child, hchild, hnode⟩ := Option.bind_eq_some_iff.1 hnode
      exact .inr ⟨child, List.mem_of_getElem? hchild, path, node, hnode, hcommand⟩
  · rintro (hown | ⟨child, hchild, hnames⟩)
    · exact ⟨[], document, rfl, hown⟩
    · exact hnames.of_child hchild

/-- Two registries have the same command, or none, under each name that the document uses. -/
def Registry.AgreeOn (registry other : Registry) (document : Json) : Prop :=
  ∀ name, document.NamesCommand name → registry.find? name = other.find? name

section Agreement

variable {registry other : Registry} {document : Json}

theorem Registry.AgreeOn.own (h : registry.AgreeOn other document) {name : String}
    (hname : document.get? "command" = some (.string name)) :
    registry.find? name = other.find? name :=
  h name ⟨[], document, rfl, hname⟩

theorem Registry.AgreeOn.child (h : registry.AgreeOn other document) {child : Json}
    (hchild : child ∈ document.ruleChildren) : registry.AgreeOn other child :=
  fun name hname => h name (hname.of_child hchild)

end Agreement

namespace RuleHead

variable {registry other : Registry}

theorem prepare_congr {command : String} (h : registry.find? command = other.find? command) :
    prepare registry command = prepare other command := by
  funext arguments
  rw [prepare, prepare, h]

theorem readCheck_congr {members : Members Json}
    (h : ∀ name, members.lookup "command" = some (.string name) →
      registry.find? name = other.find? name) :
    readCheck registry members = readCheck other members := by
  rw [readCheck, readCheck]
  refine bind_congr fun text => Except.bind_congr_ok fun command hcommand => ?_
  refine bind_congr fun selector => ?_
  simp only [prepare_congr (h command (requiredString_eq_ok_iff.1 hcommand))]

/-- Only the command that a document names itself is looked up for what it says by itself. -/
theorem ofJson_congr {document : Json}
    (h : ∀ name, document.get? "command" = some (.string name) →
      registry.find? name = other.find? name) :
    ofJson registry document = ofJson other document := by
  cases document with
  | object members =>
    rw [ofJson, ofJson, readCheck_congr h]
  | _ => rfl

end RuleHead

namespace Rule

variable {registry other : Registry}

mutual

theorem ofJson_congr (path : List Nat) {document : Json} (h : registry.AgreeOn other document) :
    ofJson registry path document = ofJson other path document := by
  have hsame : RuleHead.ofJson registry document = RuleHead.ofJson other document :=
    RuleHead.ofJson_congr fun _ => h.own
  rcases hhead : RuleHead.ofJson registry document with fault | c | ⟨connective, documents⟩
  · rw [ofJson_of_error hhead, ofJson_of_error (hsame.symm.trans hhead)]
  · rw [ofJson_of_check hhead, ofJson_of_check (hsame.symm.trans hhead)]
  · have := RuleHead.sizeOf_children_lt hhead
    have hchildren := (RuleHead.ofJson_eq_ok_iff.1 hhead).ruleChildren_eq
    rw [ofJson_of_group hhead, ofJson_of_group (hsame.symm.trans hhead),
      ofChildren_congr path 0 fun child hchild => h.child (hchildren ▸ hchild)]
termination_by sizeOf document

theorem ofChildren_congr (path : List Nat) (i : Nat) {documents : List Json}
    (h : ∀ document ∈ documents, registry.AgreeOn other document) :
    ofChildren registry path i documents = ofChildren other path i documents := by
  cases documents with
  | nil => rw [ofChildren, ofChildren]
  | cons document rest =>
    rw [List.forall_mem_cons] at h
    rw [ofChildren, ofChildren, ofJson_congr (path ++ [i]) h.1, ofChildren_congr path (i + 1) h.2]
termination_by sizeOf documents

end

end Rule

end JsonRules
