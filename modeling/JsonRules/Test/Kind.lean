import JsonRules.Json.Basic

namespace JsonRules

inductive ValueKind where
  | string
  | number
  | integer
  | boolean
  | object
  | array
  | null
deriving DecidableEq, Repr

namespace ValueKind

def ofText? : String → Option ValueKind
  | "string" => some string
  | "number" => some number
  | "integer" => some integer
  | "boolean" | "bool" => some boolean
  | "object" => some object
  | "array" => some array
  | "null" => some null
  | _ => none

def name : ValueKind → String
  | string => "String"
  | number => "Number"
  | integer => "Integer"
  | boolean => "Boolean"
  | object => "Object"
  | array => "Array"
  | null => "Null"

/-- Whether a value is of the kind; every number of whole value is an integer. -/
def holds : ValueKind → Json → Bool
  | string, .string _ => true
  | number, .number _ => true
  | integer, .number n => n.isWhole
  | boolean, .bool _ => true
  | object, .object _ => true
  | array, .array _ => true
  | null, .null => true
  | _, _ => false

end ValueKind

end JsonRules
