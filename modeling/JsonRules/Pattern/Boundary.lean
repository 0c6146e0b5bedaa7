import JsonRules.Text.Word

namespace JsonRules.Pattern

/-- A place between the characters of a text, with the characters at its two sides. -/
structure Boundary where
  before : Option Char
  after : Option Char
deriving DecidableEq, Repr

inductive WordEdge where
  | startOrStop
  | neither
  | start
  | stop
  | startHalf
  | stopHalf
deriving DecidableEq, Repr

def WordEdge.holds (before after : Bool) : WordEdge → Bool
  | startOrStop => before != after
  | neither => before == after
  | start => !before && after
  | stop => before && !after
  | startHalf => !before
  | stopHalf => !after

inductive Condition where
  | textStart
  | textEnd
  | lineStart (crlf : Bool)
  | lineEnd (crlf : Bool)
  | word (ascii : Bool) (edge : WordEdge)
deriving DecidableEq, Repr

def isAsciiWord (c : Char) : Bool := c.isAlphanum || c == '_'

namespace Boundary

/-- With `crlf` a carriage return ends a line too, and no line starts or ends inside a pair of
carriage return and line feed. -/
def satisfies (b : Boundary) : Condition → Bool
  | .textStart => b.before.isNone
  | .textEnd => b.after.isNone
  | .lineStart false => b.before.all (· == '\n')
  | .lineStart true =>
    b.before.all fun c => c == '\n' || c == '\r' && b.after != some '\n'
  | .lineEnd false => b.after.all (· == '\n')
  | .lineEnd true =>
    b.after.all fun c => c == '\r' || c == '\n' && b.before != some '\r'
  | .word ascii edge =>
    let isWord := if ascii then isAsciiWord else Text.isWord
    edge.holds (b.before.any isWord) (b.after.any isWord)

end Boundary

end JsonRules.Pattern
