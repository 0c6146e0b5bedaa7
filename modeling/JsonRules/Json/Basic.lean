import JsonRules.Json.Members
import JsonRules.Json.Number

namespace JsonRules

/-- A document. The members of an object stand in increasing order of their keys. -/
inductive Json where
  | null
  | bool (b : Bool)
  | number (n : Number)
  | string (s : String)
  | array (items : List Json)
  | object (members : List (String × Json))
deriving Repr, Inhabited

namespace Json

def ofInt (i : Int) : Json := number (.integer i)

def ofNat (n : Nat) : Json := number (.integer n)

/-- The object with the given members; of several with one key the last is kept. -/
def ofMembers (members : List (String × Json)) : Json :=
  object (SortedMembers.ofList members).members

def get? : Json → String → Option Json
  | object members, key => members.lookup key
  | _, _ => none

def string? : Json → Option String
  | string s => some s
  | _ => none

def bool? : Json → Option Bool
  | bool b => some b
  | _ => none

def number? : Json → Option Number
  | number n => some n
  | _ => none

def array? : Json → Option (List Json)
  | array items => some items
  | _ => none

def isNull : Json → Bool
  | null => true
  | _ => false

def kindName : Json → String
  | null => "null"
  | bool _ => "boolean"
  | number _ => "number"
  | string _ => "string"
  | array _ => "array"
  | object _ => "object"

end Json

end JsonRules
