import JsonRules.Settings.Basic
import JsonRules.Settings.Environment
import JsonRules.Settings.Toml.Reader

namespace JsonRules

inductive SettingFault where
  | wrongType (found expected : String)
  | wrongValue (found expected : String)
  | unknownVariant (name : String)
deriving DecidableEq, Repr

def SettingFault.message : SettingFault → String
  | wrongType found expected => "invalid type: found " ++ found ++ ", expected " ++ expected
  | wrongValue found expected => "invalid value " ++ found ++ ", expected " ++ expected
  | unknownVariant name => "unknown variant: found `" ++ name ++ "`, expected `" ++
    alternatives (PresencePolicy.named.map (·.1)) ++ "`"

inductive SettingsError where
  | malformedFile
  | field (path : List String) (fault : SettingFault)
deriving DecidableEq, Repr

namespace SettingsError

def key (path : List String) : String := ".".intercalate path

end SettingsError

namespace SettingValue

abbrev Extracted (α : Type) := Except (List String × SettingFault) α

def wrongType {α : Type} (v : SettingValue) (expected : String) : Extracted α :=
  .error ([], .wrongType v.found expected)

def toText : SettingValue → Extracted String
  | string s => .ok s
  | char c => .ok (String.singleton c)
  | v => v.wrongType "a string"

def toBool : SettingValue → Extracted Bool
  | bool b => .ok b
  | v => v.wrongType "a boolean"

def toCount : SettingValue → Extracted Nat
  | unsigned n => .ok n
  | signed i =>
    if 0 ≤ i then .ok i.toNat else .error ([], .wrongValue (signed i).found "usize")
  | v => v.wrongType "usize"

/-- A policy by its name. A table would have the name as its first key, but no value in it fits. -/
def toPolicy : SettingValue → Extracted PresencePolicy
  | string name =>
    match PresencePolicy.named.lookup name with
    | some p => .ok p
    | none => .error ([], .unknownVariant name)
  | table [] => .error ([], .wrongType "map" "enum")
  | table ((name, v) :: _) =>
    .error ([name], if (PresencePolicy.named.lookup name).isSome then .wrongType v.found "unit"
      else .unknownVariant name)
  | v => v.wrongType "enum PresencePolicy"

end SettingValue

namespace Settings

def defaultLayer : SettingValue :=
  let d : Settings := {}
  .table [("parallel_threshold", .unsigned d.parallelThreshold),
    ("presence_policy", .string d.presencePolicy.name),
    ("profile_pattern", .string d.profilePattern),
    ("strict_profiles", .bool d.strictProfiles), ("version", .string d.version)]

def setField (s : Settings) (key : String) (v : SettingValue) : SettingValue.Extracted Settings :=
  match key with
  | "version" => v.toText.map fun x => { s with version := x }
  | "profile_pattern" => v.toText.map fun x => { s with profilePattern := x }
  | "strict_profiles" => v.toBool.map fun x => { s with strictProfiles := x }
  | "presence_policy" => v.toPolicy.map fun x => { s with presencePolicy := x }
  | "parallel_threshold" => v.toCount.map fun x => { s with parallelThreshold := x }
  | _ => .ok s

/-- Sets fields in the order of their keys, up to the first value that does not fit. -/
def setFields (s : Settings) : List (String × SettingValue) → Except SettingsError Settings
  | [] => .ok s
  | (key, v) :: rest =>
    match s.setField key v with
    | .ok s => setFields s rest
    | .error (path, fault) => .error (.field (key :: path) fault)

def ofTable : SettingValue → Except SettingsError Settings
  | .table entries => setFields {} entries
  | _ => .ok {}

/-- The settings that the defaults, a file and variables give together: of several layers that have
a value for a field the last one counts, and types are looked at only then. -/
def load (file : Option String) (vars : List (String × String)) :
    Except SettingsError Settings :=
  match file.map Toml.table? with
  | some none => .error .malformedFile
  | some (some layer) => ofTable ((defaultLayer.merge layer).merge (Environment.table vars))
  | none => ofTable (defaultLayer.merge (Environment.table vars))

end Settings

end JsonRules
