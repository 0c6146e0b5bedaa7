import JsonRules.Double.Shortest
import JsonRules.Json.Basic
import JsonRules.Text.Escaped

namespace JsonRules

inductive SettingFloat where
  | finite (d : Double)
  | infinite (negative : Bool)
  | notNumber
deriving DecidableEq, Repr

namespace SettingFloat

/-- No exponent is ever written, and a whole number has no point. -/
def layout : DecimalLayout where
  positional _ := true
  wholePoint := false

def text : SettingFloat → String
  | finite d => layout.write d
  | infinite negative => if negative then "-inf" else "inf"
  | notNumber => "NaN"

def ofDecimal (negative : Bool) (significand : Nat) (exponent : Int) : SettingFloat :=
  match Double.ofDecimal? significand exponent with
  | some d => finite { d with negative := negative }
  | none => infinite negative

end SettingFloat

/-- A value as a source of settings gives it, before its type is looked at. -/
inductive SettingValue where
  | string (s : String)
  | char (c : Char)
  | bool (b : Bool)
  | signed (i : Int)
  | unsigned (n : Nat)
  | float (f : SettingFloat)
  | list (items : List SettingValue)
  | table (entries : List (String × SettingValue))
deriving Repr

namespace SettingValue

def found : SettingValue → String
  | string s => "string " ++ Text.escaped s
  | char c => "string " ++ Text.escaped (String.singleton c)
  | bool b => "bool " ++ (if b then "true" else "false")
  | signed i => "signed int `" ++ toString i ++ "`"
  | unsigned n => "unsigned int `" ++ toString n ++ "`"
  | float f => "float `" ++ f.text ++ "`"
  | list _ => "sequence"
  | table _ => "map"

mutual

/-- The later value, except that two tables are joined entry by entry. -/
def merge : SettingValue → SettingValue → SettingValue
  | table earlier, table later => table (mergeEntries earlier later)
  | _, later => later

def mergeEntries (earlier : List (String × SettingValue)) :
    List (String × SettingValue) → List (String × SettingValue)
  | [] => earlier
  | (key, v) :: later =>
    mergeEntries (Members.insert key (match earlier.lookup key with
      | some u => merge u v
      | none => v) earlier) later

end

end SettingValue

end JsonRules
