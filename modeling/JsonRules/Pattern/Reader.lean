import JsonRules.Pattern.Bracket
import JsonRules.Pattern.Tree
import JsonRules.Text.Name

namespace JsonRules.Pattern

namespace Reader

def countLimit : Nat := Nat.pow 2 32

/-- Reads a decimal number with blanks around it. Whether a bad one is a fault is for the caller to
say. -/
def decimal : Reader (Except Fault Nat) := do
  let _ ← collectWhile Text.isBlank
  let first ← place
  let digits ← collectWhile Char.isDigit
  let span ← since first
  let _ ← collectWhile Text.isBlank
  let n := Text.decimalValue digits
  if digits.isEmpty then return .error ⟨.countEmpty, span, none⟩
  else if n < countLimit then return .ok n
  else return .error ⟨.decimalInvalid, span, none⟩

/-- Passes over the sign that makes a repetition prefer few copies. -/
def skipPreference : Reader Unit := do
  if (← current?) == some '?' then
    let _ ← bump

def count : Reader (Nat × Option Nat) := do
  let first ← place
  if !(← bumpSpace) then failAt .countUnclosed (← since first)
  let least ← decimal
  if (← rest).isEmpty then failAt .countUnclosed (← since first)
  let bounds ← if (← current?) == some ',' then do
      if !(← bumpSpace) then failAt .countUnclosed (← since first)
      let low ← least
      if (← current?) == some '\x7d' then pure (low, none)
      else
        let high ← ← decimal
        pure (low, some high)
    else do
      let low ← least
      pure (low, some low)
  if (← current?) != some '\x7d' then failAt .countUnclosed (← since first)
  if ← bumpSpace then skipPreference
  if bounds.2.any (· < bounds.1) then failAt .countInvalid (← since first)
  return bounds

/-- The signs that switch modes; those that only choose among matches change nothing here. -/
def isFlag (c : Char) : Bool := "imsUuRx".toList.contains c

/-- Switches modes on, and off after a hyphen. -/
def Modes.apply (m : Modes) (flags : List Char) : Modes :=
  (flags.foldl (fun (on, m) c =>
    match c with
    | '-' => (false, m)
    | 'i' => (on, { m with ignoreCase := on })
    | 'm' => (on, { m with manyLines := on })
    | 's' => (on, { m with dotMatchesAll := on })
    | 'u' => (on, { m with unicode := on })
    | 'R' => (on, { m with crlf := on })
    | 'x' => (on, { m with verbose := on })
    | _ => (on, m)) (true, m)).2

/-- Reads flags up to a colon or a closing parenthesis; `read` holds those before, the last one
first. -/
def flags (read : List (Char × Span)) : Nat → Reader (List Char)
  | 0 => do failAt .flagAtEnd (← here)
  | steps + 1 => do
    match ← current? with
    | none => failAt .flagAtEnd (← here)
    | some c =>
      if c == ':' || c == ')' then
        match read with
        | ('-', span) :: _ => failAt .flagDanglingNegation span
        | _ => return (read.map (·.1)).reverse
      else
        let span ← charSpan
        if c != '-' && !isFlag c then failAt .flagUnknown span
        if let some earlier := read.lookup c then
          failAt (if c == '-' then .flagRepeatedNegation else .flagDuplicate) span earlier
        if !(← bump) then failAt .flagAtEnd (← here)
        flags ((c, span) :: read) steps

def nameChars (isFirst : Bool) : Nat → Reader (List Char)
  | 0 => return []
  | steps + 1 => do
    match ← current? with
    | none => return []
    | some '>' => return []
    | some c =>
      if !(if isFirst then Text.isNameStart c else Text.isNameRest c) then
        failAt .nameInvalid (← charSpan)
      if ← bump then return c :: (← nameChars false steps)
      else return [c]

/-- Reads a group's name and the bracket after it; no two groups share a name. -/
def groupName : Reader Unit := do
  let first ← place
  let name ← nameChars true (← wholeLength)
  let span ← since first
  if (← rest).isEmpty then failAt .nameUnclosed (← here)
  let _ ← bump
  if name.isEmpty then failAt .nameEmpty ⟨first, first⟩
  let name := String.ofList name
  if let some earlier := (← get).names.lookup name then failAt .nameDuplicate span earlier
  modify fun cursor => { cursor with names := (name, span) :: cursor.names }

inductive Opening where
  /-- Modes for the rest of the group around it. -/
  | switch (modes : Modes)
  /-- A group with modes of its own. -/
  | group (opening : Span) (captures : Bool) (modes : Modes)

def openGroup : Reader Opening := do
  let opening ← charSpan
  let _ ← bump
  skipSpace
  if ← accept "?=" <||> accept "?!" <||> accept "?<=" <||> accept "?<!" then
    failAt .lookAround (← since opening.first)
  let inside ← here
  if ← accept "?P<" <||> accept "?<" then
    groupName
    return .group opening true (← modes)
  else if ← accept "?" then
    if (← rest).isEmpty then failAt .groupUnclosed opening
    let switches ← flags [] (← wholeLength)
    let closing ← current?
    let _ ← bump
    let m := Modes.apply (← modes) switches
    if closing == some ')' then
      if switches.isEmpty then failAt .operandMissing inside
      return .switch m
    return .group opening false m
  else return .group opening true (← modes)

/-- A part of a sequence, which begins at a place. A switch of modes has no tree. -/
structure Item where
  first : Place
  tree? : Option Tree
  levels : Nesting := []

structure Sequence where
  first : Place
  items : List Item := []

structure Read where
  tree : Tree
  levels : Nesting

def levelsOf (parts : List Nesting) : Nesting :=
  parts.foldl (fun after part => part.beside after) []

/-- The sequence that ends at a place; two items or more are a level of their own. -/
def Sequence.read (s : Sequence) (last : Place) : Read :=
  let levels := levelsOf (s.items.map Item.levels)
  ⟨Tree.concat (s.items.filterMap Item.tree?).reverse,
    if s.items.length < 2 then levels else ⟨s.first, last⟩ :: levels⟩

/-- The branches of a choice so far; the last one, which is being read, stands apart from those
before it, and these come last first. -/
structure Choice where
  first : Place
  before : List Read := []
  last : Sequence

def Choice.begin (p : Place) : Choice := { first := p, last := ⟨p, []⟩ }

/-- The choice that ends at a place; two branches or more are a level of their own. -/
def Choice.read (a : Choice) (last : Place) : Read :=
  let final := a.last.read last
  if a.before.isEmpty then final
  else
    let reads := final :: a.before
    ⟨Tree.choice (reads.map Read.tree).reverse,
      ⟨a.first, last⟩ :: levelsOf (reads.map Read.levels)⟩

def Choice.next (a : Choice) (bar afterBar : Place) : Choice :=
  { a with before := a.last.read bar :: a.before, last := ⟨afterBar, []⟩ }

def Choice.insert (a : Choice) (item : Item) : Choice :=
  { a with last := { a.last with items := item :: a.last.items } }

/-- A group whose closing parenthesis has not come yet, with what was read of the choice around it
and the modes there. -/
structure OpenGroup where
  opening : Span
  captures : Bool
  outer : Choice
  modes : Modes

/-- The choice around a group with the group in it; the choice inside ends at `last`, and the
current place is behind the parenthesis. -/
def OpenGroup.close (g : OpenGroup) (inside : Choice) (last : Place) : Reader Choice := do
  let a := inside.read last
  let span ← since g.opening.first
  setModes g.modes
  return g.outer.insert ⟨span.first, some (.group g.captures a.tree), span :: a.levels⟩

def operand (a : Choice) : Reader (Item × Tree × Choice) := do
  match a.last.items with
  | item :: items =>
    match item.tree? with
    | some t => return (item, t, { a with last := { a.last with items } })
    | none => failAt .operandMissing (← here)
  | [] => failAt .operandMissing (← here)

def repetition (a : Choice) (bounds : Reader (Nat × Option Nat)) : Reader Choice := do
  let (item, t, a) ← operand a
  let (least, most) ← bounds
  let span ← since item.first
  return a.insert ⟨item.first, some (.repeated t least most), span :: item.levels⟩

def sign (least : Nat) (most : Option Nat) : Reader (Nat × Option Nat) := do
  if ← bump then skipPreference
  return (least, most)

/-- Reads a sign that stands for one character or for a condition. Without Unicode the dot would
match single bytes, which are no characters. -/
def atom : Reader Tree := do
  let m ← modes
  let span ← charSpan
  match ← current? with
  | some '\\' =>
    match ← escape with
    | (.literal c isByte, span) =>
      if !m.unicode && isByte && 128 ≤ c.val then misused .notUtf8 span
      return .char ((CharClass.single c).anyCaseIn m)
    | (.cls a, _) => return .char a
    | (.condition c, _) => return .condition c
  | some c =>
    let _ ← bump
    match c with
    | '.' =>
      if !m.unicode then misused .notUtf8 span
      if m.dotMatchesAll then return .char .all
      else if m.crlf then return .char (.complement (.ofRanges [('\r', '\r'), ('\n', '\n')]))
      else return .char (.complement (.single '\n'))
    | '^' => return .condition (if m.manyLines then .lineStart m.crlf else .textStart)
    | '$' => return .condition (if m.manyLines then .lineEnd m.crlf else .textEnd)
    | c => return .char ((CharClass.single c).anyCaseIn m)
  | none => return .empty

/-- Reads the rest of a pattern. The groups around the place come innermost first, and `steps`
bounds the parts that are left. -/
def parts (a : Choice) (outer : List OpenGroup) : Nat → Reader Read
  | 0 => do failAt .groupUnclosed (← here)
  | steps + 1 => do
    skipSpace
    let p ← place
    match ← current? with
    | none =>
      match outer with
      | g :: _ => failAt .groupUnclosed g.opening
      | [] => return a.read p
    | some '(' =>
      match ← openGroup with
      | .switch m =>
        setModes m
        parts (a.insert ⟨p, none, []⟩) outer steps
      | .group opening captures m =>
        let g : OpenGroup := ⟨opening, captures, a, ← modes⟩
        setModes m
        parts (.begin (← place)) (g :: outer) steps
    | some ')' =>
      match outer with
      | [] => failAt .groupUnopened (← charSpan)
      | g :: outer =>
        let _ ← bump
        parts (← g.close a p) outer steps
    | some '|' =>
      let _ ← bump
      parts (a.next p (← place)) outer steps
    | some '[' =>
      let c ← bracket
      parts (a.insert ⟨p, some (.char c.cls), c.levels⟩) outer steps
    | some '?' => parts (← repetition a (sign 0 (some 1))) outer steps
    | some '*' => parts (← repetition a (sign 0 none)) outer steps
    | some '+' => parts (← repetition a (sign 1 none)) outer steps
    | some '\x7b' => parts (← repetition a count) outer steps
    | some _ =>
      let t ← atom
      parts (a.insert ⟨p, some t, []⟩) outer steps

end Reader

/-- The tree that a pattern describes. Faults in the writing come first, then parts that lie too
deep, and then parts that have no meaning. -/
def Tree.ofText (text : String) : Except Fault Tree := do
  let chars := text.toList
  let start : Cursor := { length := chars.length, rest := chars }
  let (a, cursor) ← (Reader.parts (.begin start.place) [] (chars.length + 1)).run start
  if let some span := a.levels.tooDeep? then throw ⟨.tooDeep, span, none⟩
  if let some fault := cursor.misuse then throw fault
  return a.tree

end JsonRules.Pattern
