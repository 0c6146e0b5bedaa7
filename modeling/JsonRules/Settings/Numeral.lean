import JsonRules.Settings.Value
import JsonRules.Text.Digits

namespace JsonRules.Settings.Numeral

def signed : List Char → Bool × List Char
  | '-' :: s => (true, s)
  | '+' :: s => (false, s)
  | s => (false, s)

def natural? (s : List Char) : Option Nat :=
  if !s.isEmpty && s.all Char.isDigit then some (Text.decimalValue s) else none

/-- The exponent that a text begins with, if all of the text belongs to it; no text is the exponent
zero. -/
def exponent? : List Char → Option Int
  | [] => some 0
  | c :: s =>
    if c = 'e' ∨ c = 'E' then
      let (negative, digits) := signed s
      (natural? digits).map fun n => if negative then -(n : Int) else n
    else none

/-- The value of a decimal with a point in it. The digits on one side of the point may be missing.
-/
def pointed? (s : List Char) : Option SettingFloat :=
  let (negative, s) := signed s
  let whole := s.takeWhile Char.isDigit
  match s.dropWhile Char.isDigit with
  | '.' :: r =>
    let fraction := r.takeWhile Char.isDigit
    if whole.isEmpty && fraction.isEmpty then none
    else (exponent? (r.dropWhile Char.isDigit)).map fun e =>
      .ofDecimal negative (Text.decimalValue (whole ++ fraction)) (e - fraction.length)
  | _ => none

end JsonRules.Settings.Numeral
