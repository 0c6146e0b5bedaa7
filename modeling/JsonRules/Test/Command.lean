import JsonRules.Json.Writer
import JsonRules.Test.Basic

namespace JsonRules

inductive ArgumentFault where
  | noValue
  | noComparison
  | unknownComparison (text : String)
  | notNumber (key : String)
  | notLength (key : String)
  | noBound
  | crossedBounds (least most : Number)
  | exclusiveNotBool
  | noPattern
  | badPattern (message : String)
  | noValues
  | noKind
  | unknownKind (text : String)
deriving DecidableEq, Repr

def ArgumentFault.message : ArgumentFault → String
  | noValue => "requires 'value'"
  | noComparison => "requires a string 'op'"
  | unknownComparison text => "unknown comparison operator '" ++ text ++ "'"
  | notNumber key => "'" ++ key ++ "' must be a number"
  | notLength key => "'" ++ key ++ "' must be a non-negative integer"
  | noBound => "requires 'min' or 'max'"
  | crossedBounds least most =>
    "'min' (" ++ least.text ++ ") is greater than 'max' (" ++ most.text ++ ")"
  | exclusiveNotBool => "'exclusive' must be a boolean"
  | noPattern => "requires a string 'regex'"
  | badPattern message => message
  | noValues => "requires an array 'values'"
  | noKind => "requires a string 'type'"
  | unknownKind text => "unknown type '" ++ text ++ "'"

inductive Builtin where
  | required
  | absent
  | equals
  | notEquals
  | compare
  | range
  | pattern
  | oneOf
  | kind
  | length
  | notEmpty
  | contains
deriving DecidableEq, Repr

namespace Builtin

def named : List (String × Builtin) :=
  [("required", required), ("absent", absent), ("equals", equals), ("eq", equals),
    ("not_equals", notEquals), ("neq", notEquals), ("compare", compare), ("range", range),
    ("pattern", pattern), ("regex", pattern), ("enum", oneOf), ("one_of", oneOf), ("type", kind),
    ("length", length), ("not_empty", notEmpty), ("contains", contains)]

abbrev Prepared (α : Type) := Except ArgumentFault α

def orFault {α : Type} (o : Option α) (fault : ArgumentFault) : Prepared α :=
  match o with
  | some a => .ok a
  | none => .error fault

/-- The operand of a comparison: the member `value` of an object, or arguments of another kind as
they are. -/
def operand : Json → Prepared Json
  | .object members => orFault (members.lookup "value") .noValue
  | .null => .error .noValue
  | other => .ok other

/-- An optional number; null stands for none. -/
def numberArgument (arguments : Json) (key : String) : Prepared (Option Number) :=
  match arguments.get? key with
  | none => .ok none
  | some .null => .ok none
  | some (.number n) => .ok (some n)
  | some _ => .error (.notNumber key)

def lengthArgument (arguments : Json) (key : String) : Prepared (Option Nat) :=
  match arguments.get? key with
  | none => .ok none
  | some .null => .ok none
  | some v => (orFault (v.number?.bind Number.unsigned?) (.notLength key)).map some

def compareTest (arguments : Json) : Prepared Test := do
  let text ← orFault ((arguments.get? "op").bind Json.string?) .noComparison
  let comparison ← orFault (Comparison.ofText? text) (.unknownComparison text)
  let operand ← orFault (arguments.get? "value") .noValue
  return .compare comparison operand

/-- One bound at least is given, and if there are two they are not crossed. -/
def checkBounds {α : Type} (crossed : α → α → Bool) (number : α → Number)
    (least most : Option α) : Prepared Unit :=
  match least, most with
  | none, none => .error .noBound
  | some lo, some hi =>
    if crossed lo hi then .error (.crossedBounds (number lo) (number hi)) else .ok ()
  | _, _ => .ok ()

def exclusiveArgument (arguments : Json) : Prepared Bool :=
  match arguments.get? "exclusive" with
  | none => .ok false
  | some v => orFault v.bool? .exclusiveNotBool

def rangeTest (arguments : Json) : Prepared Test := do
  let least ← numberArgument arguments "min"
  let most ← numberArgument arguments "max"
  checkBounds (fun lo hi => Comparison.gt.holds (.number lo) (.number hi)) id least most
  let exclusive ← exclusiveArgument arguments
  return .range least most exclusive

def patternTest (arguments : Json) : Prepared Test := do
  let source := (arguments.get? "regex").getD ((arguments.get? "pattern").getD arguments)
  let text ← orFault source.string? .noPattern
  match Pattern.ofText text with
  | .ok p => return .pattern p
  | .error message => throw (.badPattern message)

def kindTest (arguments : Json) : Prepared Test := do
  let text ← orFault ((arguments.get? "type").getD arguments).string? .noKind
  let k ← orFault (ValueKind.ofText? text) (.unknownKind text)
  return .kind k

def lengthTest (arguments : Json) : Prepared Test := do
  let least ← lengthArgument arguments "min"
  let most ← lengthArgument arguments "max"
  checkBounds (fun lo hi => hi < lo) (fun n : Nat => .integer n) least most
  return .length least most

/-- Binds a command to its arguments. Arguments that it does not use are not looked at. -/
def prepare (b : Builtin) (arguments : Json) : Prepared Test :=
  match b with
  | required => .ok .required
  | absent => .ok .absent
  | equals => (operand arguments).map .equals
  | notEquals => (operand arguments).map .notEquals
  | compare => compareTest arguments
  | range => rangeTest arguments
  | pattern => patternTest arguments
  | oneOf => (orFault ((arguments.get? "values").getD arguments).array? .noValues).map .oneOf
  | kind => kindTest arguments
  | length => lengthTest arguments
  | notEmpty => .ok .notEmpty
  | contains => (operand arguments).map .contains

end Builtin

inductive Command where
  | builtin (b : Builtin)
  | custom (predicate : Predicate)

/-- The commands that rules may use, by name. Of several under one name the first counts. -/
structure Registry where
  commands : List (String × Command)

namespace Registry

def empty : Registry := ⟨[]⟩

def builtins : Registry := ⟨Builtin.named.map fun (name, b) => (name, .builtin b)⟩

def register (r : Registry) (name : String) (predicate : Predicate) : Registry :=
  ⟨(name, .custom predicate) :: r.commands⟩

def find? (r : Registry) (name : String) : Option Command := r.commands.lookup name

def contains (r : Registry) (name : String) : Bool := (r.find? name).isSome

def names (r : Registry) : List String := (SortedMembers.ofList r.commands).members.keys

def described (r : Registry) : String :=
  "CommandRegistry \x7b commands: [" ++ ", ".intercalate (r.names.map Text.escaped) ++ "] \x7d"

end Registry

def Command.prepare (c : Command) (arguments : Json) : Except ArgumentFault Test :=
  match c with
  | builtin b => b.prepare arguments
  | custom predicate => .ok (.custom predicate arguments)

end JsonRules
