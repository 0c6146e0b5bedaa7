import JsonRules.Connective
import JsonRules.Selector.Reader
import JsonRules.Test.Command

namespace JsonRules

/-- Why an object is no rule, apart from its children. -/
inductive RuleFault where
  | notObject (found : String)
  | mixed
  | neither
  | missing (key : String)
  | notString (key : String) (found : String)
  | childrenNotArray (found : String)
  | notOneChild (count : Nat)
  | noChild (connective : Connective)
  | unknownConnective (text : String)
  | unknownCommand (command : String)
  | badSelector (text : String) (fault : Selector.Fault)
  | badArguments (command : String) (fault : ArgumentFault)
deriving DecidableEq, Repr

/-- A fault of a rule document, and the way to the object that has it: the numbers of the children.
-/
structure RuleError where
  path : List Nat
  fault : RuleFault
deriving DecidableEq, Repr

def pathText (path : List Nat) : String :=
  "$" ++ String.join (path.map fun i => ".children[" ++ toString i ++ "]")

def RuleFault.malformation? : RuleFault → Option String
  | notObject found => some ("expected a rule object, found " ++ found)
  | mixed => some "a rule cannot have both 'operator' and 'command'/'selector'"
  | neither =>
    some "expected 'operator' for a composite rule or 'selector' and 'command' for a check"
  | missing key => some ("missing '" ++ key ++ "'")
  | notString key found => some ("'" ++ key ++ "' must be a string, found " ++ found)
  | childrenNotArray found => some ("'children' must be an array, found " ++ found)
  | notOneChild count => some ("NOT takes exactly one child, found " ++ toString count)
  | noChild connective => some (connective.name ++ " needs at least one child")
  | _ => none

def RuleError.message (e : RuleError) : String :=
  let path := pathText e.path
  match e.fault with
  | .unknownConnective text => "unknown operator '" ++ text ++ "' at " ++ path
  | .unknownCommand command => "unknown command '" ++ command ++ "' at " ++ path
  | .badSelector text fault =>
    "invalid selector '" ++ text ++ "' at " ++ path ++ ": " ++ fault.reason text
  | .badArguments command fault =>
    "invalid arguments for command '" ++ command ++ "' at " ++ path ++ ": " ++ fault.message
  | fault => "malformed rule at " ++ path ++ ": " ++ fault.malformation?.getD ""

end JsonRules
