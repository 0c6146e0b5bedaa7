import JsonRules.Proofs.Rule.HeadFault
import JsonRules.Proofs.Rule.WellFormed
import JsonRules.Proofs.Selector.ChildPath
import JsonRules.Selector.Locate

namespace JsonRules

/-- Every item of an array of rules has a number that a selector can hold, as in all documents that
fit into a memory. -/
inductive Json.Indexable : Json → Prop
  | intro {document : Json} : document.ruleChildren.length ≤ Selector.indexLimit →
      (∀ child ∈ document.ruleChildren, Indexable child) → Indexable document

theorem Json.Indexable.lt_indexLimit {path : List Nat} {document node : Json}
    (h : document.Indexable) (hnode : document.ruleNode? path = some node) :
    ∀ i ∈ path, i < Selector.indexLimit := by
  induction path generalizing document with
  | nil => simp
  | cons i rest ih =>
    obtain ⟨child, hchild, hnode⟩ := Option.bind_eq_some_iff.1 hnode
    obtain ⟨hlength, hchildren⟩ := h
    obtain ⟨hi, -⟩ := List.getElem?_eq_some_iff.1 hchild
    rw [List.forall_mem_cons]
    exact ⟨hi.trans_le hlength, ih (hchildren child (List.mem_of_getElem? hchild)) hnode⟩

def RuleError.under (path : List Nat) (e : RuleError) : RuleError := ⟨path ++ e.path, e.fault⟩

/-- The error is that of the first part of the document that is refused by itself. The parts come in
the lexicographic order of their paths, a group before its children. -/
structure RuleError.IsFirst (registry : Registry) (document : Json) (e : RuleError) : Prop where
  refused : ∃ node, document.ruleNode? e.path = some node ∧
    RuleHead.ofJson registry node = .error e.fault
  before : ∀ path node, document.ruleNode? path = some node → path < e.path →
    ∃ head, RuleHead.ofJson registry node = .ok head

/-- The error is that of a part of the document to which its path, read as a selector, leads. The
part has the fault by itself and is refused for it when it stands alone, and no part before it has a
fault of its own. -/
structure RuleError.PointsAt (registry : Registry) (document node : Json) (e : RuleError) :
    Prop where
  located : ∃ s, Selector.ofText (pathText e.path) = .ok s ∧ s.locate document = ⟨[node], true⟩
  isPart : document.ruleNode? e.path = some node
  refusedAlone : ∃ alone, Rule.ofDocument registry node = .error alone ∧
    pathText alone.path = "$" ∧ alone.fault = e.fault
  own : e.fault.Of registry node
  first : ∀ path other, document.ruleNode? path = some other → path < e.path →
    ∀ fault : RuleFault, ¬ fault.Of registry other

namespace Rule

section FirstFault

variable {registry : Registry}

theorem Reads.exists_reads_child {document child : Json} {r : Rule} (h : Reads registry document r)
    (hchild : child ∈ document.ruleChildren) : ∃ r, Reads registry child r := by
  cases wellFormed_of_reads h with
  | check hspelled =>
    cases hspelled with
    | check hoperator _ =>
      rw [Json.ruleChildren_of_check hoperator] at hchild
      cases hchild
  | group hspelled hchildren =>
    rw [hspelled.ruleChildren_eq] at hchild
    exact exists_reads_of_wellFormed (hchildren child hchild)

/-- No part of a document that reads as a rule is refused by itself. -/
theorem Reads.exists_head_of_ruleNode? {path : List Nat} {document node : Json} {r : Rule}
    (h : Reads registry document r) (hnode : document.ruleNode? path = some node) :
    ∃ head, RuleHead.ofJson registry node = .ok head := by
  induction path generalizing document r with
  | nil =>
    cases hnode
    exact h.exists_head
  | cons i rest ih =>
    obtain ⟨child, hchild, hnode⟩ := Option.bind_eq_some_iff.1 hnode
    obtain ⟨s, hs⟩ := h.exists_reads_child (List.mem_of_getElem? hchild)
    exact ih hs hnode

theorem isFirst_of_head {document : Json} {fault : RuleFault}
    (h : RuleHead.ofJson registry document = .error fault) :
    RuleError.IsFirst registry document ⟨[], fault⟩ where
  refused := ⟨document, rfl, h⟩
  before path _ _ hbefore := absurd hbefore (List.not_lt_nil path)

/-- The first error among the children of a group is the first one of the group. -/
theorem isFirst_of_child {document child : Json} {connective : Connective} {documents : List Json}
    {k : Nat} {e : RuleError}
    (hhead : RuleHead.ofJson registry document = .ok (.group connective documents))
    (hchild : documents[k]? = some child) (he : RuleError.IsFirst registry child e)
    (hbefore : ∀ j < k, ∀ other, documents[j]? = some other → ∃ r, Reads registry other r) :
    RuleError.IsFirst registry document (e.under [k]) := by
  have hchildren := (RuleHead.ofJson_eq_ok_iff.1 hhead).ruleChildren_eq
  constructor
  · obtain ⟨node, hnode, hfault⟩ := he.refused
    refine ⟨node, ?_, hfault⟩
    rw [RuleError.under, List.singleton_append, Json.ruleNode?, hchildren, hchild]
    exact hnode
  · -- what comes first is the group itself, then its earlier children, then parts of the child
    intro path node hnode hlt
    cases path with
    | nil =>
      cases hnode
      exact ⟨_, hhead⟩
    | cons j rest =>
      obtain ⟨other, hother, hnode⟩ := Option.bind_eq_some_iff.1 hnode
      rw [hchildren] at hother
      obtain hj | ⟨rfl, hrest⟩ := List.cons_lt_cons_iff.1 hlt
      · obtain ⟨r, hr⟩ := hbefore j hj other hother
        exact hr.exists_head_of_ruleNode? hnode
      · cases hchild.symm.trans hother
        exact he.before rest node hnode hrest

mutual

/-- The induction is that of the reader, which knows the path; the first error does not. -/
theorem exists_isFirst_of_ofJson {path : List Nat} {document : Json} {e : RuleError}
    (h : ofJson registry path document = .error e) :
    ∃ first, RuleError.IsFirst registry document first ∧ first.under path = e := by
  rw [ofJson] at h
  split at h
  · next fault hhead =>
    cases h
    exact ⟨_, isFirst_of_head hhead, by simp [RuleError.under]⟩
  · cases h
  · next connective documents hhead =>
    have := RuleHead.sizeOf_children_lt hhead
    obtain ⟨k, child, first, hchild, hfirst, hbefore, rfl⟩ :=
      exists_isFirst_of_ofChildren (Except.map_eq_error_iff.1 h)
    exact ⟨_, isFirst_of_child hhead hchild hfirst hbefore, by simp [RuleError.under]⟩
termination_by sizeOf document

theorem exists_isFirst_of_ofChildren {path : List Nat} {i : Nat} {documents : List Json}
    {e : RuleError} (h : ofChildren registry path i documents = .error e) :
    ∃ k child first, documents[k]? = some child ∧ RuleError.IsFirst registry child first ∧
      (∀ j < k, ∀ other, documents[j]? = some other → ∃ r, Reads registry other r) ∧
      first.under (path ++ [i + k]) = e := by
  cases documents with
  | nil =>
    rw [ofChildren] at h
    cases h
  | cons document rest =>
    rw [ofChildren] at h
    split at h
    · next fault hfault =>
      cases h
      obtain ⟨first, hfirst, hpath⟩ := exists_isFirst_of_ofJson hfault
      exact ⟨0, document, first, rfl, hfirst, by simp, hpath⟩
    · next r hr =>
      obtain ⟨k, child, first, hchild, hfirst, hbefore, hpath⟩ :=
        exists_isFirst_of_ofChildren (Except.map_eq_error_iff.1 h)
      refine ⟨k + 1, child, first, hchild, hfirst, fun j hj other hother => ?_, ?_⟩
      · cases j with
        | zero =>
          cases hother
          exact ⟨r, reads_of_ofJson hr⟩
        | succ j => exact hbefore j (Nat.lt_of_succ_lt_succ hj) other hother
      · rw [← hpath, Nat.add_right_comm, Nat.add_assoc]
termination_by sizeOf documents

end

theorem isFirst_of_ofDocument {document : Json} {e : RuleError}
    (h : ofDocument registry document = .error e) : RuleError.IsFirst registry document e := by
  obtain ⟨first, hfirst, rfl⟩ := exists_isFirst_of_ofJson h
  exact hfirst

/-- The path of an error leads to one part of the document, and this is the first one with a fault
of its own. -/
theorem error_points_at_first_fault {document : Json} {e : RuleError} (hindex : document.Indexable)
    (h : ofDocument registry document = .error e) :
    ∃ node, RuleError.PointsAt registry document node e := by
  have hfirst := isFirst_of_ofDocument h
  obtain ⟨node, hnode, hfault⟩ := hfirst.refused
  refine ⟨node, ⟨_, Selector.ofText_pathText (hindex.lt_indexLimit hnode),
    Selector.follow_childSegments hnode⟩, hnode, ⟨_, ofJson_of_error hfault, rfl, rfl⟩,
    RuleHead.of_ofJson_eq_error hfault, ?_⟩
  intro path other hother hlt fault
  obtain ⟨head, hhead⟩ := hfirst.before path other hother hlt
  exact RuleHead.not_of_ofJson_eq_ok hhead

section Unfinished

def commandlessObject : Json := .object [("selector", .string "$.age")]

def optionsDocument : Json :=
  RuleHead.groupDocument "or" [ageObject, commandlessObject, .null]

/-- A group in which three parts have a fault. The first of them is the second child of its second
child. -/
def unfinishedDocument : Json :=
  RuleHead.groupDocument "and" [ageObject, optionsDocument, RuleHead.groupDocument "nor" []]

theorem indexable_unfinishedDocument : unfinishedDocument.Indexable := by
  have hleaf : ∀ document : Json, document.ruleChildren = [] → document.Indexable := by
    intro document hchildren
    exact ⟨by simp [hchildren], by simp [hchildren]⟩
  have hgroup : ∀ name children, children.length ≤ 3 → (∀ child ∈ children, child.Indexable) →
      (RuleHead.groupDocument name children).Indexable := by
    intro name children hlength hchildren
    exact ⟨hlength.trans (by decide), hchildren⟩
  have hage := hleaf ageObject rfl
  have hcommandless := hleaf commandlessObject rfl
  have hnull := hleaf .null rfl
  have hoptions : optionsDocument.Indexable :=
    hgroup _ _ le_rfl (by simp [hage, hcommandless, hnull])
  have hnone := hgroup "nor" [] (by decide) (by simp)
  exact hgroup _ _ le_rfl (by simp [hage, hoptions, hnone])

theorem ofDocument_unfinishedDocument :
    ofDocument .builtins unfinishedDocument = .error ⟨[1, 1], .missing "command"⟩ := by
  have hand : Connective.ofText? "and" = some .all := by decide +kernel
  have hor : Connective.ofText? "or" = some .any := by decide +kernel
  have hage : ∀ path, ofJson .builtins path ageObject = .ok (.check ageCheck) := fun _ =>
    ofJson_of_reads reads_ageObject
  have hcommandless : RuleHead.ofJson .builtins commandlessObject = .error (.missing "command") :=
    rfl
  have hoptions : ofJson .builtins [1] optionsDocument = .error ⟨[1, 1], .missing "command"⟩ := by
    rw [optionsDocument, ofJson_of_group (RuleHead.ofJson_groupDocument hor rfl), ofChildren, hage,
      ofChildren, ofJson_of_error hcommandless]
    rfl
  rw [ofDocument, unfinishedDocument, ofJson_of_group (RuleHead.ofJson_groupDocument hand rfl),
    ofChildren, hage, ofChildren, List.nil_append, Nat.zero_add, hoptions]
  rfl

/-- The error of the object that lacks a command is reported, and its path leads there. -/
theorem pointsAt_unfinishedDocument :
    unfinishedDocument.Indexable ∧
      ofDocument .builtins unfinishedDocument = .error ⟨[1, 1], .missing "command"⟩ ∧
      ∃ node, RuleError.PointsAt .builtins unfinishedDocument node ⟨[1, 1], .missing "command"⟩ :=
  ⟨indexable_unfinishedDocument, ofDocument_unfinishedDocument,
    error_points_at_first_fault indexable_unfinishedDocument ofDocument_unfinishedDocument⟩

end Unfinished

end FirstFault

end Rule

end JsonRules
