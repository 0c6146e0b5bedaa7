import JsonRules.Json.Basic

namespace JsonRules.Json

mutual

/-- Equality by value: numbers are equal if their values are, at every depth. -/
def same : Json → Json → Bool
  | number a, number b => a.compare b == .eq
  | array xs, array ys => sameItems xs ys
  | object xs, object ys => xs.length == ys.length && sameMembers xs ys
  | null, null => true
  | bool a, bool b => a == b
  | string a, string b => a == b
  | _, _ => false

def sameItems : List Json → List Json → Bool
  | [], [] => true
  | x :: xs, y :: ys => same x y && sameItems xs ys
  | _, _ => false

def sameMembers : List (String × Json) → List (String × Json) → Bool
  | [], _ => true
  | (key, x) :: xs, ys =>
    (match ys.lookup key with
      | some y => same x y
      | none => false) && sameMembers xs ys

end

/-- Numbers are ordered by value and strings by code points; no other values are ordered. -/
def compare? : Json → Json → Option Ordering
  | number a, number b => some (a.compare b)
  | string a, string b => some (if a < b then .lt else if a = b then .eq else .gt)
  | _, _ => none

end JsonRules.Json
