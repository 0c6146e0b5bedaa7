namespace JsonRules

inductive Segment where
  | key (k : String)
  | index (n : Nat)
  | wildcard
deriving DecidableEq, Repr

/-- A path to any number of values of a document, together with its text. -/
structure Selector where
  text : String
  segments : List Segment
deriving DecidableEq, Repr

namespace Selector

def root : Selector := ⟨"$", []⟩

def isRoot (s : Selector) : Bool := s.segments.isEmpty

end Selector

end JsonRules
