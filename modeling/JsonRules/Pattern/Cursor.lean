import JsonRules.Pattern.Fault
import JsonRules.Text.Blank

namespace JsonRules.Pattern

/-- The modes that a pattern can switch on and off. Modes that only decide which of several matches
is preferred have no place here: all that is asked is whether there is a match. -/
structure Modes where
  ignoreCase : Bool := false
  manyLines : Bool := false
  dotMatchesAll : Bool := false
  crlf : Bool := false
  verbose : Bool := false
  unicode : Bool := true
deriving DecidableEq, Repr

/-- The state of reading a pattern: its length, which bounds all loops, what is left and where that
begins, the modes in force, the names given to groups so far, and the first part that is well
written but has no meaning. -/
structure Cursor where
  length : Nat
  rest : List Char
  place : Place := .start
  modes : Modes := {}
  names : List (String × Span) := []
  misuse : Option Fault := none

abbrev Reader := StateT Cursor (Except Fault)

/-- Passes over blanks, and over comments from `#` to the end of the line. -/
def skipVerbose : Bool → List Char → Place → List Char × Place
  | _, [], p => ([], p)
  | true, c :: s, p => skipVerbose (c != '\n') s (p.next c)
  | false, c :: s, p =>
    if Text.isBlank c then skipVerbose false s (p.next c)
    else if c = '#' then skipVerbose true s (p.next c)
    else (c :: s, p)

namespace Reader

def failAt {α : Type} (kind : FaultKind) (span : Span) (other : Option Span := none) : Reader α :=
  throw ⟨kind, span, other⟩

/-- Keeps in mind that a part has no meaning. Only the first such part counts, and faults in the
writing come first wherever they are. -/
def misused (kind : FaultKind) (span : Span) : Reader Unit :=
  modify fun cursor => { cursor with misuse := cursor.misuse <|> some ⟨kind, span, none⟩ }

def wholeLength : Reader Nat := return (← get).length

def rest : Reader (List Char) := return (← get).rest

def current? : Reader (Option Char) := return (← get).rest.head?

def next? : Reader (Option Char) := return (← get).rest[1]?

def place : Reader Place := return (← get).place

def modes : Reader Modes := return (← get).modes

def setModes (m : Modes) : Reader Unit := modify ({ · with modes := m })

def here : Reader Span := return ⟨← place, ← place⟩

def since (first : Place) : Reader Span := return ⟨first, ← place⟩

def charSpan : Reader Span := do
  let p ← place
  match ← current? with
  | some c => return ⟨p, p.next c⟩
  | none => return ⟨p, p⟩

/-- Passes over the current character, and says whether another one follows. -/
def bump : Reader Bool := do
  let cursor ← get
  match cursor.rest with
  | [] => return false
  | c :: s =>
    set { cursor with rest := s, place := cursor.place.next c }
    return !s.isEmpty

def skip : Nat → Reader Unit
  | 0 => return
  | count + 1 => do
    let _ ← bump
    skip count

def skipSpace : Reader Unit := do
  let cursor ← get
  if cursor.modes.verbose then
    let (s, p) := skipVerbose false cursor.rest cursor.place
    set { cursor with rest := s, place := p }

def bumpSpace : Reader Bool := do
  if ← bump then
    skipSpace
    return !(← rest).isEmpty
  else return false

def accept (word : String) : Reader Bool := do
  if word.toList.isPrefixOf (← rest) then
    skip word.length
    return true
  else return false

/-- Passes over the characters that pass the test, and the space after each; at most `count` of
them. -/
def collect (keep : Char → Bool) : Nat → Reader (List Char)
  | 0 => return []
  | count + 1 => do
    match ← current? with
    | none => return []
    | some c =>
      if keep c then
        let _ ← bumpSpace
        return c :: (← collect keep count)
      else return []

def collectWhile (keep : Char → Bool) : Reader (List Char) := do
  collect keep (← wholeLength)

/-- The first character after the current one that verbose mode would not pass over; a comment is
passed over only up to its first visible character. -/
def nextVisible? : Reader (Option Char) := do
  if (← modes).verbose then
    let after := (← rest).drop 1
    return (look false after) <|> after.head?
  else next?
where
  look : Bool → List Char → Option Char
  | _, [] => none
  | comment, c :: s =>
    if Text.isBlank c then look comment s
    else if c = '#' && !comment then look true s
    else some c

end Reader

end JsonRules.Pattern
