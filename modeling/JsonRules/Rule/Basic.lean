import JsonRules.Connective
import JsonRules.Test.Basic

namespace JsonRules

structure Check where
  selector : Selector
  command : String
  arguments : Json
  description : String
  comment : String
  test : Test
  /-- The object of the document that the check was read from. -/
  document : Json

/-- A rule document that was found to be well formed. -/
inductive Rule where
  | check (c : Check)
  | group (connective : Connective) (children : List Rule)

namespace Rule

mutual

def checks : Rule → List Check
  | check c => [c]
  | group _ children => checksOf children

def checksOf : List Rule → List Check
  | [] => []
  | r :: rest => checks r ++ checksOf rest

end

mutual

def checkCount : Rule → Nat
  | check _ => 1
  | group _ children => checkCountOf children

def checkCountOf : List Rule → Nat
  | [] => 0
  | r :: rest => checkCount r + checkCountOf rest

end

end Rule

end JsonRules
