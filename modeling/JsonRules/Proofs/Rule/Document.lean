import JsonRules.Rule.Reader

namespace JsonRules.Json

def ruleChildren (document : Json) : List Json :=
  match document.get? "operator", document.get? "children" with
  | some _, some (.array children) => children
  | _, _ => []

theorem ruleChildren_eq {document operator : Json} {children : List Json}
    (hoperator : document.get? "operator" = some operator)
    (hchildren : document.get? "children" = some (.array children)) :
    document.ruleChildren = children := by
  rw [ruleChildren, hoperator, hchildren]

theorem ruleChildren_of_check {document : Json} (h : document.get? "operator" = none) :
    document.ruleChildren = [] := by
  rw [ruleChildren, h]

theorem exists_object_of_get? {document v : Json} {key : String}
    (h : document.get? key = some v) : ∃ members, document = .object members := by
  cases document with
  | object members => exact ⟨members, rfl⟩
  | _ => cases h

theorem get?_children {document child : Json} (h : child ∈ document.ruleChildren) :
    document.get? "children" = some (.array document.ruleChildren) := by
  unfold ruleChildren at h ⊢
  split at h
  · next hchildren => exact hchildren
  · cases h

theorem sizeOf_lt_of_mem_ruleChildren {document child : Json}
    (h : child ∈ document.ruleChildren) : sizeOf child < sizeOf document := by
  have hchildren := get?_children h
  obtain ⟨members, rfl⟩ := exists_object_of_get? hchildren
  have hitem := List.sizeOf_lt_of_mem h
  have harray := RuleHead.sizeOf_lookup_lt hchildren
  rw [Json.array.sizeOf_spec] at harray
  rw [Json.object.sizeOf_spec]
  omega

/-- The parts of a rule document that have no operator, depth first. These write the checks. -/
def checkObjects (document : Json) : List Json :=
  if (document.get? "operator").isNone then [document]
  else document.ruleChildren.attach.flatMap fun ⟨child, _⟩ => checkObjects child
termination_by sizeOf document
decreasing_by exact sizeOf_lt_of_mem_ruleChildren ‹_›

theorem checkObjects_of_check {document : Json} (h : document.get? "operator" = none) :
    document.checkObjects = [document] := by
  rw [checkObjects, h]
  rfl

theorem checkObjects_of_group {document operator : Json}
    (h : document.get? "operator" = some operator) :
    document.checkObjects = document.ruleChildren.flatMap checkObjects := by
  rw [checkObjects, h, Option.isNone_some, if_neg Bool.false_ne_true,
    List.flatMap_subtype fun _ _ => rfl, List.unattach_attach]

/-- The part of a rule document at the end of a path; the path is given by the numbers of the
children on the way to it. -/
def ruleNode? (document : Json) : List Nat → Option Json
  | [] => some document
  | i :: path => document.ruleChildren[i]?.bind (ruleNode? · path)

end JsonRules.Json
