import JsonRules.Json.Basic
import JsonRules.Json.TextFault
import JsonRules.Text.Digits

namespace JsonRules.Json

abbrev ReadResult (α : Type) := Except TextError (α × List Char)

def isSpace (c : Char) : Bool :=
  c == ' ' || c == '\t' || c == '\n' || c == '\r'

def skipSpace (s : List Char) : List Char := s.dropWhile isSpace

def readWord : List Char → List Char → Except TextError (List Char)
  | [], s => .ok s
  | _ :: _, [] => .error (TextFault.endInValue.before [])
  | w :: word, c :: s =>
    if w = c then readWord word s else .error (TextFault.expectedWord.at (c :: s))

def significandLimit : Nat := Number.wordLimit

/-- Appends digits to a significand, up to the one that would make it too large, and counts them. -/
def readSignificand (significand count : Nat) : List Char → Nat × Nat × List Char
  | [] => (significand, count, [])
  | c :: s =>
    if c.isDigit && significand * 10 + Text.digitValue c < significandLimit then
      readSignificand (significand * 10 + Text.digitValue c) (count + 1) s
    else (significand, count, c :: s)

def exponentLimit : Nat := Nat.pow 2 31

/-- Appends digits to an exponent; an exponent that is too large ends at the digit that makes it so.
-/
def readExponentDigits (exponent : Nat) : List Char → Option Nat × List Char
  | [] => (some exponent, [])
  | c :: s =>
    if c.isDigit then
      if exponent * 10 + Text.digitValue c < exponentLimit then
        readExponentDigits (exponent * 10 + Text.digitValue c) s
      else (none, s)
    else (some exponent, c :: s)

def signedDouble (negative : Bool) (d : Double) : Number :=
  .double (if negative then d.neg else d)

def scaledNumber (negative : Bool) (significand : Nat) (exponent : Int) (s : List Char) :
    ReadResult Number :=
  match Double.ofScaled? significand exponent with
  | some d => .ok (signedDouble negative d, s)
  | none => .error (TextFault.numberOutOfRange.before s)

/-- Reads what follows the mark of an exponent. An exponent that is too large makes the number zero
if it is negative or the significand is zero. -/
def readExponent (negative : Bool) (significand : Nat) (exponent : Int) (s : List Char) :
    ReadResult Number :=
  let (down, digits) := match s with
    | '+' :: r => (false, r)
    | '-' :: r => (true, r)
    | r => (false, r)
  match digits with
  | [] => .error (TextFault.endInValue.before [])
  | c :: r =>
    if c.isDigit then
      match readExponentDigits (Text.digitValue c) r with
      | (some e, r) =>
        scaledNumber negative significand (if down then exponent - e else exponent + e) r
      | (none, r) =>
        if significand ≠ 0 ∧ down = false then .error (TextFault.numberOutOfRange.before r)
        else .ok (signedDouble negative (Double.ofInt 0), r.dropWhile Char.isDigit)
    else .error (TextFault.invalidNumber.at (c :: r))

def readScale (negative : Bool) (significand : Nat) (exponent : Int) : List Char → ReadResult Number
  | 'e' :: s => readExponent negative significand exponent s
  | 'E' :: s => readExponent negative significand exponent s
  | s => scaledNumber negative significand exponent s

/-- Reads what follows the point; digits beyond the capacity of the significand are dropped. -/
def readFraction (negative : Bool) (significand : Nat) (exponent : Int) (s : List Char) :
    ReadResult Number :=
  match s with
  | [] => .error (TextFault.endInValue.at [])
  | c :: _ =>
    if c.isDigit then
      let (significand, count, r) := readSignificand significand 0 s
      readScale negative significand (exponent - count) (r.dropWhile Char.isDigit)
    else .error (TextFault.invalidNumber.at s)

/-- Reads a number after its sign. Digits beyond the capacity of the significand only scale it. -/
def readNumber (negative : Bool) (s : List Char) : ReadResult Number :=
  match s with
  | [] => .error (TextFault.endInValue.before [])
  | '0' :: c :: r =>
    if c.isDigit then .error (TextFault.invalidNumber.at (c :: r)) else afterDigits 0 (c :: r)
  | c :: _ =>
    if c.isDigit then
      let (significand, _, r) := readSignificand 0 0 s
      afterDigits significand r
    else .error (TextFault.invalidNumber.at s)
where
  afterDigits (significand : Nat) (s : List Char) : ReadResult Number :=
    let more := s.takeWhile Char.isDigit
    match s.dropWhile Char.isDigit with
    | '.' :: r => readFraction negative significand more.length r
    | 'e' :: r => readExponent negative significand more.length r
    | 'E' :: r => readExponent negative significand more.length r
    | r =>
      if more.isEmpty then .ok (integral significand, r)
      else scaledNumber negative significand more.length r
  /-- An integer that fits a word; minus zero and what is too small are doubles. -/
  integral (significand : Nat) : Number :=
    if negative = false then .integer significand
    else if significand = 0 ∨ Number.signedLimit < significand then
      .double (Double.ofInt significand).neg
    else .integer (-(significand : Int))

def readUnit (s : List Char) : Except TextError Nat :=
  if Text.byteLength (s.take 4) < 4 then .error (TextFault.endInString.before [])
  else match (s.take 4).mapM Text.hexDigit? with
    | some digits => .ok (Text.hexValue digits)
    | none => .error ⟨.invalidEscape, Text.byteLength s - 4⟩

def readEscape : List Char → Except TextError (Char × Nat)
  | [] => .error (TextFault.endInString.before [])
  | '"' :: _ => .ok ('"', 1)
  | '\\' :: _ => .ok ('\\', 1)
  | '/' :: _ => .ok ('/', 1)
  | 'b' :: _ => .ok ('\x08', 1)
  | 'f' :: _ => .ok ('\x0c', 1)
  | 'n' :: _ => .ok ('\n', 1)
  | 'r' :: _ => .ok ('\r', 1)
  | 't' :: _ => .ok ('\t', 1)
  | 'u' :: s => do
    let lead ← readUnit s
    let rest := s.drop 4
    if lead < 0xD800 ∨ 0xE000 ≤ lead then return (Char.ofNat lead, 5)
    if 0xDC00 ≤ lead then throw (TextFault.loneSurrogate.before rest)
    match rest with
    | [] => throw (TextFault.endInString.before [])
    | '\\' :: [] => throw (TextFault.endInString.before [])
    | '\\' :: 'u' :: r =>
      let trail ← readUnit r
      if trail < 0xDC00 ∨ 0xE000 ≤ trail then throw (TextFault.loneSurrogate.before (r.drop 4))
      return (Char.ofNat (0x10000 + (lead - 0xD800) * 0x400 + (trail - 0xDC00)), 11)
    | '\\' :: r => throw (TextFault.unfinishedSurrogate.at r)
    | r => throw (TextFault.unfinishedSurrogate.at r)
  | s => .error (TextFault.invalidEscape.at s)

def readString (s : List Char) : ReadResult String :=
  go [] s
where
  go (read : List Char) : List Char → ReadResult String
  | [] => .error (TextFault.endInString.before [])
  | '"' :: s => .ok (String.ofList read.reverse, s)
  | '\\' :: s =>
    match readEscape s with
    | .ok (c, count) => go (c :: read) (s.drop count)
    | .error e => .error e
  | c :: s =>
    if c.val < 0x20 then .error (TextFault.controlCharacter.at (c :: s)) else go (c :: read) s
  termination_by s => s.length
  decreasing_by
    · simp only [List.length_drop, List.length_cons]; omega
    · simp

/-- Reads the items of a list; `steps` bounds their number. -/
def readItems (read : List Char → ReadResult Json) :
    Nat → List Char → Except TextError (List Json × List Char)
  | 0, s => .error (TextFault.endInList.before s)
  | steps + 1, s => do
    let (item, s) ← read s
    match skipSpace s with
    | [] => throw (TextFault.endInList.at [])
    | ']' :: s => return ([item], s)
    | ',' :: s =>
      match skipSpace s with
      | [] => throw (TextFault.endInValue.at [])
      | ']' :: s => throw (TextFault.trailingComma.at (']' :: s))
      | s =>
        let (items, s) ← readItems read steps s
        return (item :: items, s)
    | s => throw (TextFault.expectedListEnd.at s)

def readMembers (read : List Char → ReadResult Json) :
    Nat → List Char → Except TextError (List (String × Json) × List Char)
  | 0, s => .error (TextFault.endInObject.before s)
  | steps + 1, s =>
    match s with
    | '"' :: s => do
      let (key, s) ← readString s
      match skipSpace s with
      | [] => throw (TextFault.endInObject.at [])
      | ':' :: s =>
        let (value, s) ← read s
        match skipSpace s with
        | [] => throw (TextFault.endInObject.at [])
        | '\x7d' :: s => return ([(key, value)], s)
        | ',' :: s =>
          match skipSpace s with
          | [] => throw (TextFault.endInValue.at [])
          | '\x7d' :: s => throw (TextFault.trailingComma.at ('\x7d' :: s))
          | s =>
            let (members, s) ← readMembers read steps s
            return ((key, value) :: members, s)
        | s => throw (TextFault.expectedObjectEnd.at s)
      | s => throw (TextFault.expectedColon.at s)
    | s => .error (TextFault.keyNotString.at s)

/-- Reads a value in which at most `depth` lists and objects are nested; `steps` bounds the number
of items or members of each. -/
def readValue (steps : Nat) : Nat → List Char → ReadResult Json
  | depth, s =>
    match skipSpace s with
    | [] => .error (TextFault.endInValue.at [])
    | 'n' :: s => (readWord ['u', 'l', 'l'] s).map (null, ·)
    | 't' :: s => (readWord ['r', 'u', 'e'] s).map (bool true, ·)
    | 'f' :: s => (readWord ['a', 'l', 's', 'e'] s).map (bool false, ·)
    | '"' :: s => (readString s).map fun (text, s) => (string text, s)
    | '-' :: s => (readNumber true s).map fun (n, s) => (number n, s)
    | '[' :: s =>
      match depth with
      | 0 => .error (TextFault.nestedTooDeep.at ('[' :: s))
      | depth + 1 =>
        match skipSpace s with
        | [] => .error (TextFault.endInList.at [])
        | ']' :: s => .ok (array [], s)
        | s => (readItems (readValue steps depth) steps s).map fun (items, s) => (array items, s)
    | '\x7b' :: s =>
      match depth with
      | 0 => .error (TextFault.nestedTooDeep.at ('\x7b' :: s))
      | depth + 1 =>
        match skipSpace s with
        | [] => .error (TextFault.endInObject.at [])
        | '\x7d' :: s => .ok (object [], s)
        | s => (readMembers (readValue steps depth) steps s).map fun (members, s) =>
            (ofMembers members, s)
    | c :: s =>
      if c.isDigit then (readNumber false (c :: s)).map fun (n, s) => (number n, s)
      else .error (TextFault.expectedValue.at (c :: s))

def depthLimit : Nat := 127

end JsonRules.Json
