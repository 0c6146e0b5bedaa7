import JsonRules.Selector.Basic
import JsonRules.Text.Blank
import JsonRules.Text.Digits

namespace JsonRules.Selector

inductive FaultKind where
  | afterDot
  | insideBrackets
  | closingBracket
  | unexpected
deriving DecidableEq, Repr

/-- A fault, and the text from the place on where it lies. -/
structure Fault where
  kind : FaultKind
  rest : List Char
deriving DecidableEq, Repr

abbrev ReadResult := Except Fault (Segment × List Char)

def isKeyChar (c : Char) : Bool :=
  !(['.', '[', ']', '\'', '"', '*'].contains c) && !Text.isBlank c

def indexLimit : Nat := Nat.pow 2 64

/-- Reads up to the closing quote; a backslash makes the next character stand for itself. -/
def readQuoted (quote : Char) : List Char → Option (List Char × List Char)
  | [] => none
  | '\\' :: [] => none
  | '\\' :: c :: s => (readQuoted quote s).map fun (k, r) => (c :: k, r)
  | c :: s =>
    if c = quote then some ([], s) else (readQuoted quote s).map fun (k, r) => (c :: k, r)

def readAfterDot : List Char → ReadResult
  | '*' :: s => .ok (.wildcard, s)
  | s =>
    if (s.takeWhile isKeyChar).isEmpty then .error ⟨.afterDot, s⟩
    else .ok (.key (String.ofList (s.takeWhile isKeyChar)), s.dropWhile isKeyChar)

/-- Reads what stands between brackets. A quote that is never closed is a fault at the end. -/
def readInside : List Char → ReadResult
  | [] => .error ⟨.insideBrackets, []⟩
  | '*' :: s => .ok (.wildcard, s)
  | c :: s =>
    if c.isDigit then
      let n := Text.decimalValue ((c :: s).takeWhile Char.isDigit)
      if n < indexLimit then .ok (.index n, (c :: s).dropWhile Char.isDigit)
      else .error ⟨.insideBrackets, c :: s⟩
    else if c = '\'' ∨ c = '"' then
      match readQuoted c s with
      | some (k, r) => .ok (.key (String.ofList k), r)
      | none => .error ⟨.insideBrackets, []⟩
    else .error ⟨.insideBrackets, c :: s⟩

def readClosing (segment : Segment) : List Char → ReadResult
  | ']' :: s => .ok (segment, s)
  | s => .error ⟨.closingBracket, s⟩

def readBrackets (s : List Char) : ReadResult :=
  match readInside s with
  | .ok (segment, r) => readClosing segment r
  | .error e => .error e

theorem readQuoted_length {quote : Char} {s k r : List Char}
    (h : readQuoted quote s = some (k, r)) : r.length < s.length := by
  fun_induction readQuoted quote s generalizing k with
  | case1 => simp at h
  | case2 => simp at h
  | case3 c s ih =>
    obtain ⟨⟨k', r'⟩, hk, heq⟩ := Option.map_eq_some_iff.1 h
    obtain ⟨-, rfl⟩ := Prod.mk.injEq .. ▸ heq
    have := ih hk
    simp only [List.length_cons]
    omega
  | case4 s _ =>
    obtain ⟨-, rfl⟩ := Prod.mk.injEq .. ▸ Option.some.inj h
    simp
  | case5 c s _ _ _ ih =>
    obtain ⟨⟨k', r'⟩, hk, heq⟩ := Option.map_eq_some_iff.1 h
    obtain ⟨-, rfl⟩ := Prod.mk.injEq .. ▸ heq
    have := ih hk
    simp only [List.length_cons]
    omega

theorem length_dropWhile_le {p : Char → Bool} (s : List Char) : (s.dropWhile p).length ≤ s.length :=
  (List.dropWhile_sublist p).length_le

theorem readAfterDot_length {s r : List Char} {segment : Segment}
    (h : readAfterDot s = .ok (segment, r)) : r.length ≤ s.length := by
  unfold readAfterDot at h
  split at h
  · cases h; simp
  · split at h
    · cases h
    · cases h; exact length_dropWhile_le _

theorem readInside_length {s r : List Char} {segment : Segment}
    (h : readInside s = .ok (segment, r)) : r.length ≤ s.length := by
  unfold readInside at h
  split at h
  · cases h
  · cases h; simp
  · split at h
    · dsimp only at h
      split at h
      · cases h; exact length_dropWhile_le _
      · cases h
    · split at h
      · split at h
        · next heq => cases h; have := readQuoted_length heq; simp only [List.length_cons]; omega
        · cases h
      · cases h

theorem readBrackets_length {s r : List Char} {segment : Segment}
    (h : readBrackets s = .ok (segment, r)) : r.length < s.length := by
  unfold readBrackets at h
  split at h
  · next seg t heq =>
    have := readInside_length heq
    unfold readClosing at h
    split at h
    · cases h; simp only [List.length_cons] at this; omega
    · cases h
  · cases h

def readSegments (s : List Char) : Except Fault (List Segment) :=
  match s with
  | [] => .ok []
  | '.' :: r =>
    match _h : readAfterDot r with
    | .ok (segment, t) => (readSegments t).map (segment :: ·)
    | .error e => .error e
  | '[' :: r =>
    match _h : readBrackets r with
    | .ok (segment, t) => (readSegments t).map (segment :: ·)
    | .error e => .error e
  | c :: r => .error ⟨.unexpected, c :: r⟩
termination_by s.length
decreasing_by
  · have := readAfterDot_length _h; simp only [List.length_cons]; omega
  · have := readBrackets_length _h; simp only [List.length_cons]; omega

/-- Reads a path without blanks around it. The dollar sign of the root may be left out, and then a
key may come first. -/
def readPath : List Char → Except Fault (List Segment)
  | '$' :: s => readSegments s
  | s =>
    if (s.takeWhile isKeyChar).isEmpty then readSegments s
    else (readSegments (s.dropWhile isKeyChar)).map
      (.key (String.ofList (s.takeWhile isKeyChar)) :: ·)

def FaultKind.text : FaultKind → String
  | afterDot => "expected key or '*' after '.'"
  | insideBrackets => "expected index, quoted key or '*' inside brackets"
  | closingBracket => "expected `]`"
  | unexpected => "unexpected input"

/-- The number of bytes in front of the fault, in the text without the blanks around it. -/
def Fault.offset (text : String) (f : Fault) : Nat :=
  Text.byteLength (Text.trim text.toList) - Text.byteLength f.rest

def Fault.reason (text : String) (f : Fault) : String :=
  f.kind.text ++ " at offset " ++ toString (f.offset text)

def Fault.message (text : String) (f : Fault) : String :=
  "invalid selector: " ++ f.reason text

def ofText (text : String) : Except Fault Selector :=
  (readPath (Text.trim text.toList)).map (⟨text, ·⟩)

end JsonRules.Selector
