import JsonRules.Proofs.Selector.Reading

namespace JsonRules.Selector

inductive Quote where
  | single
  | double
deriving DecidableEq, Repr

def Quote.char : Quote → Char
  | single => '\''
  | double => '"'

/-- How a segment is written: after a dot if that is wanted and can be done, and in brackets
otherwise. -/
structure Spelling where
  dotted : Bool
  quote : Quote
deriving DecidableEq, Repr

instance (k : List Char) : Decidable (IsBareKey k) :=
  decidable_of_iff (k ≠ [] ∧ k.all isKeyChar = true) (by rw [isBareKey_iff, List.all_eq_true])

/-- A backslash in front of a quote and of a backslash, and other characters as they are. -/
def escapeKeyChar (quote : Quote) (c : Char) : List Char :=
  if c = quote.char ∨ c = '\\' then ['\\', c] else [c]

def quotedKey (quote : Quote) (k : List Char) : List Char :=
  quote.char :: (k.flatMap (escapeKeyChar quote) ++ [quote.char])

def segmentText (spelling : Spelling) : Segment → List Char
  | .wildcard => if spelling.dotted then ['.', '*'] else ['[', '*', ']']
  | .index n => '[' :: ((toString n).toList ++ [']'])
  | .key k =>
    if spelling.dotted ∧ IsBareKey k.toList then '.' :: k.toList
    else '[' :: (quotedKey spelling.quote k.toList ++ [']'])

def render (path : List (Spelling × Segment)) : String :=
  String.ofList ('$' :: path.flatMap fun (spelling, segment) => segmentText spelling segment)

section Quoted

theorem Quote.char_mem (quote : Quote) : quote.char ∈ ['\'', '"'] := by
  cases quote <;> decide

/-- No character of the key can end it early: those that could are escaped. -/
theorem quotedText_escapeKeyChar (quote : Quote) (k : List Char) :
    QuotedText quote.char (k.flatMap (escapeKeyChar quote)) k := by
  induction k with
  | nil => exact .nil
  | cons c rest ih =>
    rw [List.flatMap_cons, escapeKeyChar]
    split
    · exact .escaped ih
    · next hplain =>
      rw [not_or] at hplain
      exact .plain hplain.1 hplain.2 ih

end Quoted

section Segments

theorem segmentText_spelled {segment : Segment} (h : ∀ n, segment = .index n → n < Nat.pow 2 64)
    (spelling : Spelling) : SegmentText (segmentText spelling segment) segment := by
  cases segment with
  | wildcard =>
    rw [segmentText]
    split
    · exact .dotAny
    · exact .any
  | index n => exact .index (isNumeral_toString n) (h n rfl)
  | key k =>
    have hdotted (hkey : IsBareKey k.toList) : SegmentText ('.' :: k.toList) (.key k) := by
      simpa using SegmentText.dotKey hkey
    have hquoted : SegmentText ('[' :: (quotedKey spelling.quote k.toList ++ [']'])) (.key k) := by
      have hkey := quotedText_escapeKeyChar spelling.quote k.toList
      simpa [quotedKey] using SegmentText.quoted spelling.quote.char_mem hkey
    rw [segmentText]
    split
    · next hbare => exact hdotted hbare.2
    · exact hquoted

theorem segmentsText_spelled {path : List (Spelling × Segment)}
    (h : ∀ n, Segment.index n ∈ path.map (·.2) → n < Nat.pow 2 64) :
    SegmentsText (path.flatMap fun (spelling, segment) => segmentText spelling segment)
      (path.map (·.2)) := by
  induction path with
  | nil => exact .nil
  | cons first rest ih =>
    obtain ⟨spelling, segment⟩ := first
    simp only [List.map_cons, List.mem_cons] at h
    have hsegment := segmentText_spelled (fun n hn => h n (.inl hn.symm)) spelling
    exact .cons hsegment (ih fun n hn => h n (.inr hn))

end Segments

/-- Every path has a text, and reading the text gives back the path, whatever its keys are and
however its segments are spelled. -/
theorem ofText_render {path : List (Spelling × Segment)}
    (h : ∀ n, Segment.index n ∈ path.map (·.2) → n < Nat.pow 2 64) :
    ofText (render path) = .ok ⟨render path, path.map (·.2)⟩ := by
  apply ofText_of_pathText
  rw [render, String.toList_ofList]
  exact .rooted (segmentsText_spelled h)

section Odd

/-- Keys that are empty, that have quotes, a backslash and a bracket in them, and that need no
quotes; the greatest index there is; and both forms of a wildcard. -/
def oddPath : List (Spelling × Segment) :=
  [(⟨true, .single⟩, .key ""), (⟨false, .single⟩, .key "it's"), (⟨true, .double⟩, .key "\"\\] "),
    (⟨true, .double⟩, .key "name"), (⟨false, .double⟩, .key "name"),
    (⟨true, .single⟩, .index 18446744073709551615), (⟨true, .single⟩, .wildcard),
    (⟨false, .single⟩, .wildcard)]

def oddText : String :=
  "$['']['it\\'s'][\"\\\"\\\\] \"].name[\"name\"][18446744073709551615].*[*]"

theorem render_oddPath : render oddPath = oddText := by decide

theorem ofText_oddText :
    (∀ n, Segment.index n ∈ oddPath.map (·.2) → n < Nat.pow 2 64) ∧
      ofText oddText = .ok ⟨oddText, [.key "", .key "it's", .key "\"\\] ", .key "name",
        .key "name", .index 18446744073709551615, .wildcard, .wildcard]⟩ := by
  have hindex : ∀ n, Segment.index n ∈ oddPath.map (·.2) → n < Nat.pow 2 64 := by
    intro n hn
    simp only [oddPath, List.map_cons, List.map_nil, List.mem_cons, Segment.index.injEq,
      reduceCtorEq, List.not_mem_nil, or_false, false_or] at hn
    rw [hn]
    decide
  have hread := ofText_render hindex
  rw [render_oddPath] at hread
  exact ⟨hindex, hread⟩

end Odd

end JsonRules.Selector
