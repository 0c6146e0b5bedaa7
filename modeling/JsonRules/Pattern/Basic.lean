import JsonRules.Pattern.Footprint
import JsonRules.Pattern.Reader

namespace JsonRules

structure Pattern where
  source : String
  regex : Pattern.Regex
deriving DecidableEq, Repr

namespace Pattern

def ofText (source : String) : Except String Pattern :=
  match Tree.ofText source with
  | .error fault => .error (fault.message source)
  | .ok tree =>
    if (Shape.ofTree tree).fits then .ok ⟨source, tree.toRegex⟩
    else .error ("Compiled regex exceeds size limit of " ++ toString sizeLimit ++ " bytes.")

/-- Whether the pattern matches some part of a text. -/
def matchesIn (p : Pattern) (text : String) : Bool :=
  p.regex.search none text.toList

end Pattern

end JsonRules
