import JsonRules.Settings.Numeral
import JsonRules.Settings.Quoted
import JsonRules.Text.Blank

namespace JsonRules.Settings.Environment

def isSpace (c : Char) : Bool :=
  c == ' ' || c == '\t' || c == '\n' || c == '\x0c' || c == '\r'

def isSeparator (c : Char) : Bool := [',', '\x7b', '\x7d', '[', ']'].contains c

def isKeyChar (c : Char) : Bool := c.isAlphanum || c == '_' || c == '-'

def skipSpace (s : List Char) : List Char := s.dropWhile isSpace

/-- A text without quotes: a number if it reads as one, else a string. -/
def plain (s : List Char) : SettingValue :=
  let float := if s.contains '.' then Numeral.pointed? s else none
  let magnitude := match s with
    | '+' :: r => r
    | r => r
  let unsigned := (Numeral.natural? magnitude).filter (· < Number.wordLimit)
  let signed := (Numeral.natural? (Numeral.signed s).2).bind fun n =>
    if (Numeral.signed s).1 then (if n ≤ Number.signedLimit then some (-(n : Int)) else none)
    else if n < Number.signedLimit then some (n : Int) else none
  match float, unsigned, signed with
  | some f, _, _ => .float f
  | _, some n, _ => .unsigned n
  | _, _, some i => .signed i
  | _, _, _ => .string (String.ofList s)

def readKey? (s : List Char) : Option (String × List Char) :=
  match skipSpace s with
  | '"' :: r => (Quoted.readEscaped? r).map fun (key, r) => (key, skipSpace r)
  | r =>
    let key := r.takeWhile isKeyChar
    if key.isEmpty then none else some (String.ofList key, skipSpace (r.dropWhile isKeyChar))

mutual

/-- Reads a value with spaces around it; `steps` bounds the values in it. -/
def readValue? : Nat → List Char → Option (SettingValue × List Char)
  | 0, _ => none
  | steps + 1, s =>
    let read := match skipSpace s with
      | 't' :: 'r' :: 'u' :: 'e' :: r => some (SettingValue.bool true, r)
      | 'f' :: 'a' :: 'l' :: 's' :: 'e' :: r => some (.bool false, r)
      | '\x7b' :: r => (readEntries? steps r).map fun (entries, r) =>
          (.table (SortedMembers.ofList entries).members, r)
      | '[' :: r => (readItems? steps r).map fun (items, r) => (.list items, r)
      | '"' :: r => (Quoted.readEscaped? r).map fun (s, r) => (.string s, r)
      | '\'' :: c :: '\'' :: r => some (.char c, r)
      | '\'' :: _ => none
      | r => some (plain (Text.trim (r.takeWhile (!isSeparator ·))), r.dropWhile (!isSeparator ·))
    read.map fun (v, r) => (v, skipSpace r)

def readItems? : Nat → List Char → Option (List SettingValue × List Char)
  | _, ']' :: r => some ([], r)
  | 0, _ => none
  | steps + 1, s => do
    let (v, r) ← readValue? steps s
    match r with
    | ']' :: r => some ([v], r)
    | ',' :: r => (readItems? steps r).map fun (items, r) => (v :: items, r)
    | _ => none

def readEntries? : Nat → List Char → Option (List (String × SettingValue) × List Char)
  | _, '\x7d' :: r => some ([], r)
  | 0, _ => none
  | steps + 1, s => do
    let (key, r) ← readKey? s
    match r with
    | '=' :: r =>
      let (v, r) ← readValue? steps r
      match r with
      | '\x7d' :: r => some ([(key, v)], r)
      | ',' :: r => (readEntries? steps r).map fun (entries, r) => ((key, v) :: entries, r)
      | _ => none
    | _ => none

end

/-- The value of a variable. A text that does not read as a value is a string as it is. -/
def value (text : String) : SettingValue :=
  match readValue? (2 * text.length + 2) text.toList with
  | some (v, []) => v
  | _ => .string text

/-- The beginning that marks the names of variables, in upper or lower case. -/
def marker : String := "RULECHECK_"

/-- The way to the setting that a variable names: the parts between dots, in lower case. Blanks
around the name, and around what follows the marker, do not count. -/
def path? (name : String) : Option (List String) :=
  let name := Text.trim (name.toList.map Char.toLower)
  let start := marker.toList.map Char.toLower
  if start.isPrefixOf name then
    let parts := ((Text.trim (name.drop start.length)).splitOn '.').map String.ofList
    if parts.contains "" then none else some parts
  else none

def nest : List String → SettingValue → SettingValue
  | [], v => v
  | key :: path, v => .table [(key, nest path v)]

def table (vars : List (String × String)) : SettingValue :=
  vars.foldl (fun t (name, text) =>
    match path? name with
    | some path => t.merge (nest path (value text))
    | none => t) (.table [])

end JsonRules.Settings.Environment
