import JsonRules.Text.Ranges

namespace JsonRules.Text

/-- The characters that share a value of a property, under the names of the value in lower case and
without spaces, hyphens and underscores. -/
structure CodeSet where
  names : List String
  text : String

def CodeSet.ranges (s : CodeSet) : Ranges := Ranges.ofText s.text

def rangesOf (sets : List CodeSet) (name : String) : Option Ranges :=
  (sets.find? (·.names.contains name)).map CodeSet.ranges

end JsonRules.Text
