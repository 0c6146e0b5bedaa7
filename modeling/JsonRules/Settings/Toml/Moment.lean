import JsonRules.Settings.Value
import JsonRules.Text.Digits

namespace JsonRules.Settings.Toml

def digits? (count least most : Nat) (s : List Char) : Option (Nat × List Char) :=
  let n := Text.decimalValue (s.take count)
  if (s.take count).length = count && (s.take count).all Char.isDigit && least ≤ n && n ≤ most then
    some (n, s.drop count)
  else none

def skipChar? (c : Char) : List Char → Option (List Char)
  | d :: s => if d == c then some s else none
  | [] => none

def daysIn (year month : Nat) : Nat :=
  if month = 2 then
    if year % 4 = 0 && (year % 100 != 0 || year % 400 = 0) then 29 else 28
  else if [4, 6, 9, 11].contains month then 30
  else 31

def skipDate? (s : List Char) : Option (List Char) := do
  let (year, s) ← digits? 4 0 9999 s
  let (month, s) ← digits? 2 1 12 (← skipChar? '-' s)
  let (_, s) ← digits? 2 1 (daysIn year month) (← skipChar? '-' s)
  return s

def skipFraction? : List Char → Option (List Char)
  | '.' :: s => if s.head?.any Char.isDigit then some (s.dropWhile Char.isDigit) else none
  | s => some s

def skipTime? (s : List Char) : Option (List Char) := do
  let (_, s) ← digits? 2 0 23 s
  let (_, s) ← digits? 2 0 59 (← skipChar? ':' s)
  let (_, s) ← digits? 2 0 60 (← skipChar? ':' s)
  skipFraction? s

def skipOffset? : List Char → Option (List Char)
  | [] => some []
  | c :: s =>
    if c == 'Z' || c == 'z' then some s
    else if c == '+' || c == '-' then do
      let (_, s) ← digits? 2 0 23 s
      let (_, s) ← digits? 2 0 59 (← skipChar? ':' s)
      return s
    else some (c :: s)

/-- Passes over a date, a time, or a date and a time after a `T` or a space. -/
def skipMoment? (s : List Char) : Option (List Char) :=
  match skipDate? s with
  | none => skipTime? s
  | some r =>
    match r with
    | [] => some []
    | c :: t =>
      if c == 'T' || c == 't' then skipTime? t >>= skipOffset?
      else if c == ' ' && (digits? 2 0 23 t).any (·.2.head? == some ':') then
        skipTime? t >>= skipOffset?
      else some r

/-- A date or a time is a table with its text as the only entry. -/
def ofMoment (text : List Char) : SettingValue :=
  .table [("$__toml_private_datetime", .string (String.ofList text))]

def readMoment? (s : List Char) : Option (SettingValue × List Char) :=
  (skipMoment? s).map fun r => (ofMoment (s.take (s.length - r.length)), r)

end JsonRules.Settings.Toml
