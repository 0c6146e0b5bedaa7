import JsonRules.Pattern.CharClass
import JsonRules.Pattern.Boundary
import JsonRules.Pattern.Cursor
import JsonRules.Text.Property.Query

namespace JsonRules.Pattern

/-- What a single character or an escape of a pattern stands for. A literal may be written as a
byte. -/
inductive Atom where
  | literal (c : Char) (isByte : Bool)
  | cls (a : CharClass)
  | condition (c : Condition)

def CharClass.anyCaseIn (m : Modes) (a : CharClass) : CharClass :=
  if m.ignoreCase then anyCase (!m.unicode) a else a

namespace Reader

/-- Keeps in mind that a complement, which is written at the span, holds more than ASCII where only
ASCII is allowed. -/
def complementIf (negated : Bool) (span : Span) (a : CharClass) : Reader CharClass := do
  if negated then
    if !(← modes).unicode then misused .notUtf8 span
    return .complement a
  else return a

def scalarOf (digits : List Nat) (span : Span) : Reader Char :=
  match Text.charOf? (Text.hexValue digits) with
  | some c => return c
  | none => failAt .hexInvalid span

def hexDigit : Reader Nat := do
  match (← current?).bind Text.hexDigit? with
  | some d => return d
  | none => failAt .hexInvalidDigit (← charSpan)

def hexDigits : Nat → Reader (List Nat)
  | 0 => return []
  | count + 1 => do
    if !(← bumpSpace) then failAt .escapeAtEnd (← here)
    let d ← hexDigit
    return d :: (← hexDigits count)

def bracedDigits : Nat → Reader (List Nat)
  | 0 => return []
  | count + 1 => do
    if ← bumpSpace then
      if (← current?) == some '\x7d' then return []
      let d ← hexDigit
      return d :: (← bracedDigits count)
    else return []

/-- Reads a code point: `length` hexadecimal digits, or any number of them between braces. Two
digits without braces write a byte. -/
def codePoint (length : Nat) : Reader Atom := do
  if !(← bumpSpace) then failAt .escapeAtEnd (← here)
  let first ← place
  if (← current?) == some '\x7b' then
    let afterBrace := (← charSpan).last
    let digits ← bracedDigits (← wholeLength)
    if (← rest).isEmpty then failAt .escapeAtEnd (← since first)
    let inside ← since afterBrace
    let _ ← bumpSpace
    if digits.isEmpty then failAt .hexEmpty (← since first)
    return .literal (← scalarOf digits inside) false
  else
    let d ← hexDigit
    let digits ← hexDigits (length - 1)
    let _ ← bumpSpace
    return .literal (← scalarOf (d :: digits) (← since first)) (length == 2)

def namedEdge? : String → Option WordEdge
  | "start" => some .start
  | "end" => some .stop
  | "start-half" => some .startHalf
  | "end-half" => some .stopHalf
  | _ => none

def isNameLetter (c : Char) : Bool := c.isAlpha || c == '-'

/-- Reads the name in braces that may follow the sign of a word edge. What follows may also be a
count, and then nothing is read. -/
def wordEdge (first : Place) : Reader WordEdge := do
  if (← current?) != some '\x7b' then return .startOrStop
  let before ← get
  if !(← bumpSpace) then failAt .wordEdgeAtEnd (← since first)
  let inside ← place
  if !(← current?).any isNameLetter then
    set before
    return .startOrStop
  let name ← collectWhile isNameLetter
  if (← current?) != some '\x7d' then failAt .wordEdgeUnclosed (← since before.place)
  let span ← since inside
  let _ ← bump
  match namedEdge? (String.ofList name) with
  | some e => return e
  | none => failAt .wordEdgeUnknown span

def bracedName : Nat → Reader (List Char)
  | 0 => return []
  | count + 1 => do
    if ← bumpSpace then
      match ← current? with
      | some '\x7d' => return []
      | some c => return c :: (← bracedName count)
      | none => return []
    else return []

def splitAtSign? (sign : List Char) : List Char → Option (List Char × List Char)
  | [] => none
  | c :: s =>
    if sign.isPrefixOf (c :: s) then some ([], (c :: s).drop sign.length)
    else (splitAtSign? sign s).map fun (before, after) => (c :: before, after)

/-- The characters that a name means, or a name and a value with a sign between them. All the signs
say that the property has the value. -/
def propertyRanges (text : List Char) : Except Text.PropertyFault Text.Ranges :=
  match splitAtSign? "!=".toList text <|> splitAtSign? [':'] text <|> splitAtSign? ['='] text with
  | some (property, value) => Text.rangesWith (String.ofList property) (String.ofList value)
  | none => Text.rangesNamed (String.ofList text)

/-- Reads the property after the letter that announces it: one letter, or a name in braces. -/
def propertyName : Reader (List Char) := do
  if !(← bumpSpace) then failAt .escapeAtEnd (← here)
  match ← current? with
  | some '\x7b' =>
    let name ← bracedName (← wholeLength)
    if (← rest).isEmpty then failAt .escapeAtEnd (← here)
    let _ ← bump
    return name
  | some '\\' => failAt .propertyNameInvalid (← charSpan)
  | c =>
    let _ ← bumpSpace
    return c.toList

/-- Reads a class that is given by a property. Without Unicode there are no properties. -/
def property (first : Place) (negated : Bool) : Reader CharClass := do
  let name ← propertyName
  let span ← since first
  let m ← modes
  if !m.unicode then
    misused .unicodeNotAllowed span
    return .none
  match propertyRanges name with
  | .ok a => complementIf negated span ((CharClass.table a.toArray).anyCaseIn m)
  | .error .noProperty =>
    misused .propertyUnknown span
    return .none
  | .error .noValue =>
    misused .propertyValueUnknown span
    return .none

def letterClass? (unicode : Bool) (c : Char) : Option (Bool × CharClass) :=
  match c.toLower, unicode with
  | 'd', true => some (c.isUpper, .digits)
  | 's', true => some (c.isUpper, .blanks)
  | 'w', true => some (c.isUpper, .words)
  | 'd', false => (CharClass.named? "digit").map (c.isUpper, ·)
  | 's', false => (CharClass.named? "space").map (c.isUpper, ·)
  | 'w', false => (CharClass.named? "word").map (c.isUpper, ·)
  | _, _ => none

def controlChar? : Char → Option Char
  | 'a' => some '\x07'
  | 'f' => some '\x0c'
  | 't' => some '\t'
  | 'n' => some '\n'
  | 'r' => some '\r'
  | 'v' => some '\x0b'
  | _ => none

/-- Whether `c` after a backslash stands for itself. -/
def isEscapable (c : Char) : Bool :=
  c.val < 128 && !c.isAlphanum && c != '<' && c != '>'

def escape : Reader (Atom × Span) := do
  let first ← place
  if !(← bump) then failAt .escapeAtEnd (← since first)
  let c := (← current?).getD '\\'
  if c.isDigit then failAt .backReference ⟨first, (← charSpan).last⟩
  if c == 'x' then return (← codePoint 2, ← since first)
  if c == 'u' then return (← codePoint 4, ← since first)
  if c == 'U' then return (← codePoint 8, ← since first)
  if c == 'p' || c == 'P' then return (.cls (← property first (c == 'P')), ← since first)
  let ascii := !(← modes).unicode
  let _ ← bump
  if c == 'b' then return (.condition (.word ascii (← wordEdge first)), ← since first)
  let span ← since first
  if isEscapable c then return (.literal c false, span)
  if let some (negated, a) := letterClass? (!ascii) c then
    return (.cls (← complementIf negated span a), span)
  if let some k := controlChar? c then return (.literal k false, span)
  match c with
  | 'A' => return (.condition .textStart, span)
  | 'z' => return (.condition .textEnd, span)
  | 'B' => return (.condition (.word ascii .neither), span)
  | '<' => return (.condition (.word ascii .start), span)
  | '>' => return (.condition (.word ascii .stop), span)
  | _ => failAt .escapeUnknown span

end Reader

end JsonRules.Pattern
