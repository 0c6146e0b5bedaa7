namespace JsonRules

/-- How the verdicts of several rules make one. -/
inductive Connective where
  | all
  | any
  | not
deriving DecidableEq, Repr

namespace Connective

def name : Connective → String
  | all => "AND"
  | any => "OR"
  | not => "NOT"

def ofText? (text : String) : Option Connective :=
  match text.map Char.toUpper with
  | "AND" => some all
  | "OR" => some any
  | "NOT" => some not
  | _ => none

/-- A negation looks at the first verdict only, and without one it fails. -/
def combine : Connective → List Bool → Bool
  | all, verdicts => verdicts.all id
  | any, verdicts => verdicts.any id
  | not, verdicts => verdicts.head? == some false

end Connective

end JsonRules
