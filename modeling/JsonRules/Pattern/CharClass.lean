import JsonRules.Text.Blank
import JsonRules.Text.CaseFold
import JsonRules.Text.Word

namespace JsonRules.Pattern

inductive CharClass where
  | none
  | range (first last : Char)
  | digits
  | blanks
  | words
  /-- The characters of a property. -/
  | table (codes : Text.RangeTable)
  | complement (a : CharClass)
  | union (a b : CharClass)
  | inter (a b : CharClass)
  | diff (a b : CharClass)
  | symmDiff (a b : CharClass)
  /-- The characters that differ by case at most from one of the class, among all characters or only
  among those of ASCII. -/
  | anyCase (ascii : Bool) (a : CharClass)
deriving DecidableEq, Repr

namespace CharClass

def contains : CharClass → Char → Bool
  | none, _ => false
  | range first last, c => first ≤ c && c ≤ last
  | digits, c => Text.isDecimalDigit c
  | blanks, c => Text.isBlank c
  | words, c => Text.isWord c
  | table codes, c => codes.contains c
  | complement a, c => !a.contains c
  | union a b, c => a.contains c || b.contains c
  | inter a b, c => a.contains c && b.contains c
  | diff a b, c => a.contains c && !b.contains c
  | symmDiff a b, c => a.contains c != b.contains c
  | anyCase true a, c => a.contains c || (Text.asciiVariants c).any a.contains
  | anyCase false a, c => a.contains c || (Text.caseVariants c).any a.contains

def ranges : CharClass → Text.Ranges
  | none => []
  | range first last => [(first.toNat, last.toNat)]
  | digits => Text.digitRanges
  | blanks => Text.blankRanges
  | words => Text.wordRanges
  | table codes => codes.toList
  | complement a => a.ranges.complement
  | union a b => a.ranges.union b.ranges
  | inter a b => a.ranges.inter b.ranges
  | diff a b => a.ranges.inter b.ranges.complement
  | symmDiff a b =>
    (a.ranges.inter b.ranges.complement).union (b.ranges.inter a.ranges.complement)
  | anyCase true a => a.ranges.union (Text.asciiClosure a.ranges)
  | anyCase false a => a.ranges.union (Text.caseClosure a.ranges)

def single (c : Char) : CharClass := range c c

def all : CharClass := complement none

def ofRanges (ranges : List (Char × Char)) : CharClass :=
  ranges.foldl (fun a r => union a (range r.1 r.2)) none

/-- The classes that are written by name between brackets and colons; all of them are ASCII. -/
def named? : String → Option CharClass
  | "alnum" => ofRanges [('0', '9'), ('A', 'Z'), ('a', 'z')]
  | "alpha" => ofRanges [('A', 'Z'), ('a', 'z')]
  | "ascii" => ofRanges [('\x00', '\x7f')]
  | "blank" => ofRanges [('\t', '\t'), (' ', ' ')]
  | "cntrl" => ofRanges [('\x00', '\x1f'), ('\x7f', '\x7f')]
  | "digit" => ofRanges [('0', '9')]
  | "graph" => ofRanges [('!', '~')]
  | "lower" => ofRanges [('a', 'z')]
  | "print" => ofRanges [(' ', '~')]
  | "punct" => ofRanges [('!', '/'), (':', '@'), ('[', '\x60'), ('\x7b', '~')]
  | "space" => ofRanges [('\t', '\r'), (' ', ' ')]
  | "upper" => ofRanges [('A', 'Z')]
  | "word" => ofRanges [('0', '9'), ('A', 'Z'), ('_', '_'), ('a', 'z')]
  | "xdigit" => ofRanges [('0', '9'), ('A', 'F'), ('a', 'f')]
  | _ => Option.none

end CharClass

end JsonRules.Pattern
