import JsonRules.Pattern.Escape

namespace JsonRules.Pattern.Reader

inductive ClassOp where
  | inter
  | diff
  | symmDiff
deriving DecidableEq, Repr

def ClassOp.combine : ClassOp → CharClass → CharClass → CharClass
  | inter => .inter
  | diff => .diff
  | symmDiff => .symmDiff

structure Part where
  cls : CharClass
  span : Span
  levels : Nesting := []

/-- Joins two parts around an operation to one, which is a level of its own. -/
def ClassOp.join (m : Modes) (op : ClassOp) (a b : Part) : Part :=
  let span := ⟨a.span.first, b.span.last⟩
  ⟨op.combine (a.cls.anyCaseIn m) (b.cls.anyCaseIn m), span, span :: a.levels.beside b.levels⟩

structure Members where
  count : Nat
  union : Part

def Members.none (at_ : Place) : Members := ⟨0, .none, ⟨at_, at_⟩, []⟩

def Members.insert (a : Members) (p : Part) : Members :=
  if a.count = 0 then ⟨1, p⟩
  else ⟨a.count + 1, .union a.union.cls p.cls, ⟨a.union.span.first, p.span.last⟩,
    a.union.levels.beside p.levels⟩

/-- Two members or more are a level of their own. -/
def Members.part (a : Members) : Part :=
  if a.count < 2 then a.union else { a.union with levels := a.union.span :: a.union.levels }

/-- A class whose closing bracket has not come yet: how it begins, an operation that waits for its
right side, and the members since then. -/
structure OpenClass where
  opening : Span
  negated : Bool
  pending : Option (ClassOp × Part) := none
  members : Members

def OpenClass.part (m : Modes) (a : OpenClass) : Part :=
  match a.pending with
  | some (op, lhs) => op.join m lhs a.members.part
  | none => a.members.part

def OpenClass.insert (a : OpenClass) (p : Part) : OpenClass :=
  { a with members := a.members.insert p }

/-- A class that is written by name, such as `[:alpha:]` or `[:^alpha:]`, and its length. -/
def namedClass? : List Char → Option (Bool × CharClass × Nat)
  | '[' :: ':' :: '^' :: s => (closed s).map fun (a, count) => (true, a, count + 5)
  | '[' :: ':' :: s => (closed s).map fun (a, count) => (false, a, count + 4)
  | _ => none
where
  closed (s : List Char) : Option (CharClass × Nat) :=
    let name := s.takeWhile (· != ':')
    if [':', ']'].isPrefixOf (s.dropWhile (· != ':')) then
      (CharClass.named? (String.ofList name)).map (·, name.length)
    else none

/-- Reads hyphens at the beginning of a class, which stand for themselves; at most `count` of them.
-/
def leadingHyphens (first : Place) (a : Members) : Nat → Reader Members
  | 0 => return a
  | count + 1 => do
    if (← current?) == some '-' then
      let span ← charSpan
      if !(← bumpSpace) then failAt .classUnclosed ⟨first, first⟩
      leadingHyphens first (a.insert ⟨.single '-', span, []⟩) count
    else return a

/-- Reads an opening bracket, a negation, and the hyphens or the bracket that stand for themselves.
-/
def openBracket : Reader OpenClass := do
  let first ← place
  if !(← bumpSpace) then failAt .classUnclosed (← since first)
  let negated := (← current?) == some '^'
  if negated then
    if !(← bumpSpace) then failAt .classUnclosed (← since first)
  let hyphens ← leadingHyphens first (.none (← place)) (← wholeLength)
  let members ← if hyphens.count = 0 && (← current?) == some ']' then do
      let span ← charSpan
      if !(← bumpSpace) then failAt .classUnclosed (← since first)
      pure (hyphens.insert ⟨.single ']', span, []⟩)
    else pure hyphens
  return { opening := ← since first, negated, members }

def classAtom : Reader (Atom × Span) := do
  match ← current? with
  | some '\\' => escape
  | some c =>
    let span ← charSpan
    let _ ← bump
    return (.literal c false, span)
  | none => failAt .classUnclosed (← here)

/-- A character of a class. Without Unicode a class holds ASCII only. -/
def classChar (c : Char) (isByte : Bool) (span : Span) : Reader Char := do
  if !(← modes).unicode && 128 ≤ c.val then
    misused (if isByte then .notUtf8 else .unicodeNotAllowed) span
  return c

def rangeChar : Atom × Span → Reader Char
  | (.literal c isByte, span) => classChar c isByte span
  | (_, span) => failAt .classRangeNotLiteral span

def classRange (opening : Span) : Reader Part := do
  let low ← classAtom
  skipSpace
  if (← rest).isEmpty then failAt .classUnclosed opening
  let following ← nextVisible?
  if (← current?) != some '-' || following == some ']' || following == some '-' then
    match low with
    | (.literal c isByte, span) => return ⟨.single (← classChar c isByte span), span, []⟩
    | (.cls a, span) => return ⟨a, span, []⟩
    | (.condition _, span) => failAt .classEscapeInvalid span
  else
    if !(← bumpSpace) then failAt .classUnclosed opening
    let high ← classAtom
    let first ← rangeChar low
    let last ← rangeChar high
    let span := ⟨low.2.first, high.2.last⟩
    if last < first then failAt .classRangeInvalid span
    return ⟨.range first last, span, []⟩

def closeBracket (a : OpenClass) : Reader Part := do
  let m ← modes
  let inside := a.part m
  let span ← since a.opening.first
  return ⟨← complementIf a.negated span (inside.cls.anyCaseIn m), span, span :: inside.levels⟩

/-- Reads the rest of a class; the classes around it come innermost first, and `steps` bounds the
parts that are left. -/
def classParts (a : OpenClass) (outer : List OpenClass) : Nat → Reader Part
  | 0 => failAt .classUnclosed a.opening
  | steps + 1 => do
    skipSpace
    let m ← modes
    let operation (op : ClassOp) : Reader Part := do
      skip 2
      let pending := some (op, a.part m)
      classParts { a with pending, members := .none (← place) } outer steps
    match ← rest with
    | [] => failAt .classUnclosed a.opening
    | ']' :: _ =>
      let _ ← bump
      let part ← closeBracket a
      match outer with
      | [] => return part
      | b :: outer => classParts (b.insert part) outer steps
    | '&' :: '&' :: _ => operation .inter
    | '-' :: '-' :: _ => operation .diff
    | '~' :: '~' :: _ => operation .symmDiff
    | '[' :: s =>
      match namedClass? ('[' :: s) with
      | some (negated, b, count) =>
        let first ← place
        skip count
        let span ← since first
        let part := ⟨← complementIf negated span (b.anyCaseIn m), span, []⟩
        classParts (a.insert part) outer steps
      | none => classParts (← openBracket) (a :: outer) steps
    | _ =>
      let part ← classRange a.opening
      classParts (a.insert part) outer steps

def bracket : Reader Part := do
  classParts (← openBracket) [] ((← wholeLength) + 1)

end JsonRules.Pattern.Reader
