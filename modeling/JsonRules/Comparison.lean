import JsonRules.Json.Order

namespace JsonRules

inductive Comparison where
  | eq
  | neq
  | gt
  | gte
  | lt
  | lte
deriving DecidableEq, Repr

namespace Comparison

def symbol : Comparison → String
  | eq => "=="
  | neq => "!="
  | gt => ">"
  | gte => ">="
  | lt => "<"
  | lte => "<="

def ofText? : String → Option Comparison
  | "==" | "eq" => some eq
  | "!=" | "ne" | "neq" => some neq
  | ">" | "gt" => some gt
  | ">=" | "gte" => some gte
  | "<" | "lt" => some lt
  | "<=" | "lte" => some lte
  | _ => none

/-- Equality has an answer for all values, order only for two numbers or two strings. -/
def apply (c : Comparison) (a b : Json) : Option Bool :=
  match c with
  | eq => some (a.same b)
  | neq => some (!a.same b)
  | gt => (a.compare? b).map (· == .gt)
  | gte => (a.compare? b).map (· != .lt)
  | lt => (a.compare? b).map (· == .lt)
  | lte => (a.compare? b).map (· != .gt)

/-- Whether the relation holds; values that are not ordered are in no order relation. -/
def holds (c : Comparison) (a b : Json) : Bool := (c.apply a b).getD false

end Comparison

end JsonRules
