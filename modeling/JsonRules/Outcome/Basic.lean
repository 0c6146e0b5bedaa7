import JsonRules.Connective
import JsonRules.Json.Basic

namespace JsonRules

/-- What became of a check. A check that was not evaluated is not valid. -/
structure CheckOutcome where
  description : String
  comment : String
  command : String
  selector : String
  /-- The object of the rule document, if it was asked for. -/
  rule : Option Json
  valid : Bool
  evaluated : Bool

inductive Outcome where
  | check (c : CheckOutcome)
  | group (connective : Connective) (valid : Bool) (children : List Outcome)

namespace Outcome

def valid : Outcome → Bool
  | check c => c.valid
  | group _ v _ => v

mutual

def checks : Outcome → List CheckOutcome
  | check c => [c]
  | group _ _ children => checksOf children

def checksOf : List Outcome → List CheckOutcome
  | [] => []
  | o :: rest => checks o ++ checksOf rest

end

mutual

/-- The outcomes of the checks in front of a list, in one pass that copies nothing. -/
def checksOnto : Outcome → List CheckOutcome → List CheckOutcome
  | check c, after => c :: after
  | group _ _ children, after => checksOfOnto children after

def checksOfOnto : List Outcome → List CheckOutcome → List CheckOutcome
  | [], after => after
  | o :: rest, after => checksOnto o (checksOfOnto rest after)

end

mutual

def checkCount : Outcome → Nat
  | check _ => 1
  | group _ _ children => checkCountOf children

def checkCountOf : List Outcome → Nat
  | [] => 0
  | o :: rest => checkCount o + checkCountOf rest

end

mutual

def isComplete : Outcome → Bool
  | check c => c.evaluated
  | group _ _ children => areComplete children

def areComplete : List Outcome → Bool
  | [] => true
  | o :: rest => isComplete o && areComplete rest

end

end Outcome

end JsonRules
