import JsonRules.Proofs.Rule.Document
import JsonRules.Proofs.Selector.Reading
import JsonRules.Rule.Fault

namespace JsonRules

def childSegments (i : Nat) : List Segment := [.key "children", .index i]

def childText (i : Nat) : List Char := (".children[" ++ toString i ++ "]").toList

namespace Selector

section Text

theorem isBareKey_children : IsBareKey "children".toList := by
  have hall : "children".toList.all isKeyChar = true := by decide +kernel
  exact isBareKey_iff.2 ⟨by decide, List.all_eq_true.1 hall⟩

theorem segmentsText_child {i : Nat} (h : i < indexLimit) {s : List Char}
    {segments : List Segment} (hs : SegmentsText s segments) :
    SegmentsText (childText i ++ s) (childSegments i ++ segments) := by
  have hkey : SegmentText ('.' :: "children".toList) (.key "children") :=
    .dotKey isBareKey_children
  have hindex := SegmentText.index (isNumeral_toString i) h
  have hboth := SegmentsText.cons hkey (.cons hindex hs)
  simpa [childText, childSegments] using hboth

theorem segmentsText_children {path : List Nat} (h : ∀ i ∈ path, i < indexLimit) :
    SegmentsText (path.flatMap childText) (path.flatMap childSegments) := by
  induction path with
  | nil => exact .nil
  | cons i rest ih =>
    rw [List.forall_mem_cons] at h
    rw [List.flatMap_cons, List.flatMap_cons]
    exact segmentsText_child h.1 (ih h.2)

theorem toList_pathText (path : List Nat) :
    (pathText path).toList = '$' :: path.flatMap childText := by
  rw [pathText, String.toList_append, String.toList_join, List.flatMap_map]
  rfl

/-- The path that is reported with a fault can be read as a selector. -/
theorem ofText_pathText {path : List Nat} (h : ∀ i ∈ path, i < indexLimit) :
    ofText (pathText path) = .ok ⟨pathText path, path.flatMap childSegments⟩ := by
  apply ofText_of_pathText
  rw [toList_pathText]
  exact .rooted (segmentsText_children h)

end Text

section Following

theorem fits_of_children {segment : Segment} {v w : Json} (h : segment.children v = [w]) :
    segment.fits v = true := by
  cases segment with
  | wildcard => cases v <;> first | rfl | cases h
  | key k => rw [Segment.fits, h] <;> simp
  | index n => rw [Segment.fits, h] <;> simp

theorem follow_of_children {segment : Segment} {v w : Json} (h : segment.children v = [w])
    (rest : List Segment) : follow (segment :: rest) [v] true = follow rest [w] true := by
  simp [follow, h, fits_of_children h]

/-- The path that is reported with a fault leads to the part that has it, and to nothing else. -/
theorem follow_childSegments {path : List Nat} {document node : Json}
    (h : document.ruleNode? path = some node) :
    follow (path.flatMap childSegments) [document] true = ⟨[node], true⟩ := by
  induction path generalizing document with
  | nil =>
    cases h
    rfl
  | cons i rest ih =>
    obtain ⟨child, hchild, hnode⟩ := Option.bind_eq_some_iff.1 h
    have harray := Json.get?_children (List.mem_of_getElem? hchild)
    obtain ⟨members, rfl⟩ := Json.exists_object_of_get? harray
    have hkey : (Segment.key "children").children (.object members) =
        [.array (Json.object members).ruleChildren] := congrArg Option.toList harray
    have hindex : (Segment.index i).children (.array (Json.object members).ruleChildren) =
        [child] := congrArg Option.toList hchild
    rw [List.flatMap_cons, childSegments, List.cons_append, List.cons_append, List.nil_append,
      follow_of_children hkey, follow_of_children hindex, ih hnode]

end Following

end Selector

end JsonRules
