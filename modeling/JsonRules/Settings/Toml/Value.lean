import JsonRules.Settings.Numeral
import JsonRules.Settings.Quoted
import JsonRules.Settings.Toml.Moment
import JsonRules.Settings.Toml.Table

namespace JsonRules.Settings.Toml

/-- Values are nested less deep than this, and keys have fewer parts. -/
def depthLimit : Nat := 80

def isSpace (c : Char) : Bool := c == ' ' || c == '\t'

def skipSpace (s : List Char) : List Char := s.dropWhile isSpace

def isKeyChar (c : Char) : Bool := c.isAlphanum || c == '_' || c == '-'

/-- Passes over a comment; controls other than the tab cannot stand in it. -/
def skipComment? : List Char → Option (List Char)
  | '#' :: s =>
    let r := s.dropWhile fun c => Quoted.isPlain c
    match r with
    | [] => some []
    | '\n' :: _ => some r
    | '\r' :: '\n' :: _ => some r
    | _ => none
  | s => some s

/-- Passes over blanks, ends of lines and comments; `steps` bounds the lines. -/
def skipLines? : Nat → List Char → Option (List Char)
  | 0, s => some s
  | steps + 1, s =>
    match skipSpace s with
    | '\n' :: r => skipLines? steps r
    | '\r' :: '\n' :: r => skipLines? steps r
    | '#' :: r => (skipComment? ('#' :: r)).bind (skipLines? steps)
    | r => some r

def readKeyPart? : List Char → Option (String × List Char)
  | '"' :: s => Quoted.readEscaped? s
  | '\'' :: s => Quoted.readLiteral? s
  | s =>
    let key := s.takeWhile isKeyChar
    if key.isEmpty then none else some (String.ofList key, s.dropWhile isKeyChar)

def readKeyParts? : Nat → List Char → Option (List String × List Char)
  | 0, _ => none
  | count + 1, s => do
    let (part, r) ← readKeyPart? (skipSpace s)
    match skipSpace r with
    | '.' :: r => (readKeyParts? count r).map fun (parts, r) => (part :: parts, r)
    | r => some ([part], r)

def readKey? (s : List Char) : Option (List String × List Char) :=
  readKeyParts? (depthLimit - 1) s

/-- The digits of a number in which underscores may stand between digits. -/
def separated? (isDigit : Char → Bool) : List Char → Option (List Char)
  | [] => none
  | [c] => if isDigit c then some [c] else none
  | c :: '_' :: s => if isDigit c then (separated? isDigit s).map (c :: ·) else none
  | c :: s => if isDigit c then (separated? isDigit s).map (c :: ·) else none

def signedRange (negative : Bool) (n : Nat) : Option SettingValue :=
  if negative then (if n ≤ Number.signedLimit then some (.signed (-(n : Int))) else none)
  else if n < Number.signedLimit then some (.signed n) else none

def based? (base : Nat) (s : List Char) : Option SettingValue := do
  let isDigit (c : Char) := (Text.hexDigit? c).any (· < base)
  let digits ← separated? isDigit s
  signedRange false (digits.foldl (fun n c => n * base + (Text.hexDigit? c).getD 0) 0)

/-- Decimal digits without a needless zero in front. -/
def wholeDigits? (s : List Char) : Option (List Char) :=
  match separated? Char.isDigit s with
  | some ('0' :: _ :: _) => none
  | digits => digits

/-- A number with a point or an exponent; one that is too large is refused unless it is negative. -/
def float? (negative : Bool) (s : List Char) : Option SettingValue := do
  let isMark (c : Char) := c == 'e' || c == 'E'
  let mantissa := s.takeWhile (!isMark ·)
  let exponent ← match s.dropWhile (!isMark ·) with
    | [] => some (0 : Int)
    | _ :: r =>
      let (down, digits) := Numeral.signed r
      (separated? Char.isDigit digits).map fun ds =>
        if down then -(Text.decimalValue ds : Int) else Text.decimalValue ds
  let whole ← wholeDigits? (mantissa.takeWhile (· != '.'))
  let fraction ← match mantissa.dropWhile (· != '.') with
    | [] => some []
    | _ :: r => separated? Char.isDigit r
  match SettingFloat.ofDecimal negative (Text.decimalValue (whole ++ fraction))
      (exponent - fraction.length) with
  | .infinite false => none
  | f => some (.float f)

def word? (s : List Char) : Option SettingValue :=
  let (negative, unsigned) := Numeral.signed s
  match String.ofList s, String.ofList unsigned with
  | "true", _ => some (.bool true)
  | "false", _ => some (.bool false)
  | _, "inf" => some (.float (.infinite negative))
  | _, "nan" => some (.float .notNumber)
  | _, _ =>
    match s with
    | '0' :: 'x' :: r => based? 16 r
    | '0' :: 'o' :: r => based? 8 r
    | '0' :: 'b' :: r => based? 2 r
    | _ =>
      if unsigned.all fun c => c.isDigit || c == '_' then
        (wholeDigits? unsigned).bind fun ds => signedRange negative (Text.decimalValue ds)
      else float? negative unsigned

def isWordChar (c : Char) : Bool := c.isAlphanum || c == '_' || c == '-' || c == '+' || c == '.'

mutual

/-- Reads a value, in which at most `depth` lists and tables may be nested; `steps` bounds the
values in it. -/
def readValue? (depth : Nat) : Nat → List Char → Option (SettingValue × List Char)
  | 0, _ => none
  | steps + 1, s =>
    match s, depth with
    | '[' :: _, 0 => none
    | '[' :: r, depth + 1 => (readItems? depth steps r).map fun (items, r) => (.list items, r)
    | '\x7b' :: _, 0 => none
    | '\x7b' :: r, depth + 1 =>
      match skipSpace r with
      | '\x7d' :: r => some (.table [], r)
      | r => (readEntries? depth steps [] r).map fun (entries, r) => (.table (settings entries), r)
    | s, _ =>
      if s.head?.any fun c => c == '"' || c == '\'' then
        (Quoted.read? s).map fun (text, r) => (.string text, r)
      else readMoment? s <|> (word? (s.takeWhile isWordChar)).map (·, s.dropWhile isWordChar)

def readItems? (depth : Nat) : Nat → List Char → Option (List SettingValue × List Char)
  | 0, _ => none
  | steps + 1, s => do
    match ← skipLines? s.length s with
    | ']' :: r => some ([], r)
    | s =>
      let (v, r) ← readValue? depth steps s
      match ← skipLines? r.length r with
      | ']' :: r => some ([v], r)
      | ',' :: r => (readItems? depth steps r).map fun (items, r) => (v :: items, r)
      | _ => none

/-- Reads the entries of a table in braces, which stands on one line. -/
def readEntries? (depth : Nat) : Nat → Entries → List Char → Option (Entries × List Char)
  | 0, _, _ => none
  | steps + 1, entries, s => do
    let (keys, r) ← readKey? s
    match r with
    | '=' :: r =>
      let (v, r) ← readValue? depth steps (skipSpace r)
      let entries ← assign? v keys entries
      match skipSpace r with
      | '\x7d' :: r => some (entries, r)
      | ',' :: r => readEntries? depth steps entries r
      | _ => none
    | _ => none

end

end JsonRules.Settings.Toml
