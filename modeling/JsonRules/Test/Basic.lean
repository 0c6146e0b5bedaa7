import JsonRules.Comparison
import JsonRules.Pattern.Basic
import JsonRules.Selector.Locate
import JsonRules.Test.Kind

namespace JsonRules

/-- What a predicate of the host says of a value. While it runs it may cancel tokens by name. -/
structure Answer where
  passed : Bool
  cancels : List String := []

/-- A command of the host: it sees a value and the arguments of the rule. -/
abbrev Predicate := Json → Json → Answer

inductive Test where
  | required
  | absent
  | equals (expected : Json)
  | notEquals (expected : Json)
  | compare (comparison : Comparison) (operand : Json)
  | range (least most : Option Number) (exclusive : Bool)
  | pattern (p : Pattern)
  | oneOf (allowed : List Json)
  | kind (k : ValueKind)
  | length (least most : Option Nat)
  | notEmpty
  | contains (needle : Json)
  | custom (predicate : Predicate) (arguments : Json)

namespace Test

def isPartOf (part : List Char) : List Char → Bool
  | [] => part.isEmpty
  | c :: whole => part.isPrefixOf (c :: whole) || isPartOf part whole

def holdsInside (value needle : Json) : Bool :=
  match value, needle with
  | .array items, _ => items.any (·.same needle)
  | .string s, .string part => isPartOf part.toList s.toList
  | .object members, .string key => Members.contains members key
  | _, _ => false

def size? : Json → Option Nat
  | .string s => some s.length
  | .array items => some items.length
  | .object members => some members.length
  | _ => none

def isEmpty : Json → Bool
  | .null => true
  | .string s => s.isEmpty
  | .array items => items.isEmpty
  | .object members => members.isEmpty
  | _ => false

def isWithin (least most : Option Number) (exclusive : Bool) (value : Json) : Bool :=
  let above := if exclusive then Comparison.gt else .gte
  let below := if exclusive then Comparison.lt else .lte
  value.number?.isSome && least.all (above.holds value <| .number ·) &&
    most.all (below.holds value <| .number ·)

/-- Whether one value passes. Presence is not a matter of the value. -/
def passesValue (test : Test) (value : Json) : Bool :=
  match test with
  | required => true
  | absent => true
  | equals expected => value.same expected
  | notEquals expected => !value.same expected
  | compare comparison operand => comparison.holds value operand
  | range least most exclusive => isWithin least most exclusive value
  | pattern p => value.string?.any p.matchesIn
  | oneOf allowed => allowed.any (value.same ·)
  | kind k => k.holds value
  | length least most => (size? value).any fun n => least.all (· ≤ n) && most.all (n ≤ ·)
  | notEmpty => !isEmpty value
  | contains needle => holdsInside value needle
  | custom predicate arguments => (predicate value arguments).passed

def checksPresence : Test → Bool
  | required => true
  | absent => true
  | _ => false

def isRequired : Test → Bool
  | required => true
  | _ => false

def passesAll (test : Test) (values : List Json) : Bool :=
  match test with
  | required => !values.isEmpty && values.all (!·.isNull)
  | absent => values.isEmpty
  | _ => !values.isEmpty && values.all test.passesValue

/-- A resolution that is not complete fails every test but that for absence, and passes this only if
it found nothing. -/
def passes (test : Test) (found : Resolution) : Bool :=
  if found.complete then test.passesAll found.values
  else match test with
    | absent => found.values.isEmpty
    | _ => false

/-- What a predicate cancels that sees the values one after the other, up to the first that fails.
-/
def cancelsOn (predicate : Predicate) (arguments : Json) : List Json → List String
  | [] => []
  | value :: rest =>
    let answer := predicate value arguments
    answer.cancels ++ if answer.passed then cancelsOn predicate arguments rest else []

def cancels (test : Test) (found : Resolution) : List String :=
  match test with
  | custom predicate arguments =>
    if found.complete then cancelsOn predicate arguments found.values else []
  | _ => []

end Test

end JsonRules
