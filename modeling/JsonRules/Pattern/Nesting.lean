import JsonRules.Pattern.Span

namespace JsonRules.Pattern

def depthLimit : Nat := 250

/-- For each level of nesting, from the outside in, the first part of a pattern that lies there. -/
abbrev Nesting := List Span

namespace Nesting

def beside : Nesting → Nesting → Nesting
  | [], b => b
  | a, [] => a
  | span :: a, _ :: b => span :: beside a b

/-- The first part, from the outside in and from left to right, that lies too deep. -/
def tooDeep? (levels : Nesting) : Option Span := levels[depthLimit]?

end Nesting

end JsonRules.Pattern
