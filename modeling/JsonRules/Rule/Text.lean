import JsonRules.Json.Writer
import JsonRules.Rule.Basic

namespace JsonRules

def describedFields (name : String) (fields : List (String × String)) : String :=
  let items := fields.map fun (key, text) => key ++ ": " ++ text
  name ++ " \x7b " ++ ", ".intercalate items ++ " \x7d"

def describedList (items : List String) : String :=
  "[" ++ ", ".intercalate items ++ "]"

def describedOption : Option String → String
  | some text => "Some(" ++ text ++ ")"
  | none => "None"

def describedBool (b : Bool) : String := if b then "true" else "false"

def Segment.described : Segment → String
  | key k => "Key(" ++ Text.escaped k ++ ")"
  | index n => "Index(" ++ toString n ++ ")"
  | wildcard => "Wildcard"

def Selector.described (s : Selector) : String :=
  describedFields "Selector"
    [("raw", Text.escaped s.text), ("segments", describedList (s.segments.map Segment.described))]

def Test.described : Test → String
  | required => "Required"
  | absent => "Absent"
  | equals v => "Equals(" ++ v.described ++ ")"
  | notEquals v => "NotEquals(" ++ v.described ++ ")"
  | compare c v => "Compare(" ++ c.symbol ++ " " ++ v.compact ++ ")"
  | range least most exclusive =>
    describedFields "Range" [("min", number least), ("max", number most),
      ("exclusive", describedBool exclusive)]
  | pattern p => "Pattern(" ++ Text.escaped p.source ++ ")"
  | oneOf values => "OneOf(" ++ describedList (values.map Json.described) ++ ")"
  | kind k => "Type(" ++ k.name ++ ")"
  | length least most => describedFields "Length" [("min", count least), ("max", count most)]
  | notEmpty => "NotEmpty"
  | contains v => "Contains(" ++ v.described ++ ")"
  | custom _ arguments => describedFields "Custom" [("arguments", arguments.described)]
where
  number (n : Option Number) : String := describedOption (n.map fun n => (Json.number n).described)
  count (n : Option Nat) : String := describedOption (n.map toString)

def Connective.described : Connective → String
  | all => "And"
  | any => "Or"
  | not => "Not"

def Check.described (c : Check) : String :=
  describedFields "AtomicRule"
    [("selector", c.selector.described), ("command", Text.escaped c.command),
      ("arguments", c.arguments.described), ("description", Text.escaped c.description),
      ("comment", Text.escaped c.comment), ("check", c.test.described),
      ("raw", c.document.described)]

namespace Rule

mutual

/-- The rule in one line: commands with their selectors, and groups in parentheses. -/
def text : Rule → String
  | check c => c.command ++ "(" ++ c.selector.text ++ ")"
  | group connective children => "(" ++ connective.name ++ textOf children ++ ")"

def textOf : List Rule → String
  | [] => ""
  | r :: rest => " " ++ text r ++ textOf rest

end

mutual

def described : Rule → String
  | check c => "Atomic(" ++ c.described ++ ")"
  | group connective children =>
    let fields :=
      [("operator", connective.described), ("children", describedList (describedOf children))]
    "Composite(" ++ describedFields "CompositeRule" fields ++ ")"

def describedOf : List Rule → List String
  | [] => []
  | r :: rest => described r :: describedOf rest

end

def summary (r : Rule) : String :=
  "CompiledRules(" ++ toString r.checkCount ++ " checks): " ++ r.text

end Rule

end JsonRules
