import JsonRules.Pattern.Nesting

namespace JsonRules.Pattern

inductive FaultKind where
  | classEscapeInvalid
  | classRangeInvalid
  | classRangeNotLiteral
  | classUnclosed
  | decimalInvalid
  | hexEmpty
  | hexInvalid
  | hexInvalidDigit
  | escapeAtEnd
  | escapeUnknown
  | flagDanglingNegation
  | flagDuplicate
  | flagRepeatedNegation
  | flagAtEnd
  | flagUnknown
  | nameDuplicate
  | nameEmpty
  | nameInvalid
  | nameUnclosed
  | groupUnclosed
  | groupUnopened
  | countInvalid
  | countEmpty
  | countUnclosed
  | operandMissing
  | wordEdgeUnclosed
  | wordEdgeUnknown
  | wordEdgeAtEnd
  | backReference
  | lookAround
  | propertyNameInvalid
  | tooDeep
  | unicodeNotAllowed
  | notUtf8
  | propertyUnknown
  | propertyValueUnknown
deriving DecidableEq, Repr

def FaultKind.message : FaultKind → String
  | classEscapeInvalid => "invalid escape sequence found in character class"
  | classRangeInvalid => "invalid character class range, the start must be <= the end"
  | classRangeNotLiteral => "invalid range boundary, must be a literal"
  | classUnclosed => "unclosed character class"
  | decimalInvalid => "decimal literal invalid"
  | hexEmpty => "hexadecimal literal empty"
  | hexInvalid => "hexadecimal literal is not a Unicode scalar value"
  | hexInvalidDigit => "invalid hexadecimal digit"
  | escapeAtEnd => "incomplete escape sequence, reached end of pattern prematurely"
  | escapeUnknown => "unrecognized escape sequence"
  | flagDanglingNegation => "dangling flag negation operator"
  | flagDuplicate => "duplicate flag"
  | flagRepeatedNegation => "flag negation operator repeated"
  | flagAtEnd => "expected flag but got end of regex"
  | flagUnknown => "unrecognized flag"
  | nameDuplicate => "duplicate capture group name"
  | nameEmpty => "empty capture group name"
  | nameInvalid => "invalid capture group character"
  | nameUnclosed => "unclosed capture group name"
  | groupUnclosed => "unclosed group"
  | groupUnopened => "unopened group"
  | countInvalid => "invalid repetition count range, the start must be <= the end"
  | countEmpty => "repetition quantifier expects a valid decimal"
  | countUnclosed => "unclosed counted repetition"
  | operandMissing => "repetition operator missing expression"
  | wordEdgeUnclosed =>
    "special word boundary assertion is either unclosed or contains an invalid character"
  | wordEdgeUnknown => "unrecognized special word boundary assertion, valid choices are: " ++
    "start, end, start-half or end-half"
  | wordEdgeAtEnd => "found either the beginning of a special word boundary or a bounded " ++
    "repetition on a \\b with an opening brace, but no closing brace"
  | backReference => "backreferences are not supported"
  | lookAround => "look-around, including look-ahead and look-behind, is not supported"
  | propertyNameInvalid => "invalid Unicode character class"
  | tooDeep => "exceed the maximum number of nested parentheses/brackets (" ++
    toString depthLimit ++ ")"
  | unicodeNotAllowed => "Unicode not allowed here"
  | notUtf8 => "pattern can match invalid UTF-8"
  | propertyUnknown => "Unicode property not found"
  | propertyValueUnknown => "Unicode property value not found"

/-- A fault and where it lies; `other` is the earlier of two places that clash. -/
structure Fault where
  kind : FaultKind
  span : Span
  other : Option Span
deriving DecidableEq, Repr

namespace Fault

/-- The lines of a pattern; a line feed at the end starts no line, and a carriage return in front of
a line feed belongs to the line's end. -/
def lines (pattern : String) : List String :=
  let all := pattern.splitOn "\n"
  let whole := if all.getLast? = some "" then all.dropLast else all
  let last := if all.getLast? = some "" then [] else whole.getLast?.toList
  (if last.isEmpty then whole else whole.dropLast).map dropReturn ++ last
where
  dropReturn (line : String) : String :=
    if line.toList.getLast? = some '\r' then String.ofList line.toList.dropLast else line

def carets (spans : List Span) : String :=
  spans.foldl (fun marks span =>
    (marks.pushn ' ' (span.first.column - 1 - marks.length)).pushn '^'
      (max 1 (span.last.column - span.first.column))) ""

def spans (f : Fault) : List Span :=
  match f.other with
  | none => [f.span]
  | some other =>
    if other.first.offset ≤ f.span.first.offset then [other, f.span] else [f.span, other]

def isOneLine (s : Span) : Bool := s.first.line == s.last.line

/-- The pattern with the places of the fault marked below its lines; several lines are numbered. -/
def message (pattern : String) (f : Fault) : String :=
  let ls := lines pattern
  let manyLines := pattern.contains '\n'
  let lineCount := ls.length + (if pattern.endsWith "\n" then 1 else 0)
  let width := (toString lineCount).length
  let leader (n : Nat) := if manyLines then
    "".pushn ' ' (width - (toString n).length) ++ toString n ++ ": " else "    "
  let indent := "".pushn ' ' (if manyLines then width + 2 else 4)
  let body := String.join (ls.mapIdx fun i line =>
    let here := f.spans.filter fun s => isOneLine s && s.first.line == i + 1
    leader (i + 1) ++ line ++ "\n" ++ (if here.isEmpty then "" else indent ++ carets here ++ "\n"))
  let divider := if manyLines then "".pushn '~' 79 ++ "\n" else ""
  let across := (f.spans.filter (!isOneLine ·)).map fun s =>
    "on line " ++ toString s.first.line ++ " (column " ++ toString s.first.column ++
      ") through line " ++ toString s.last.line ++
      " (column " ++ toString (s.last.column - 1) ++ ")"
  let notes := if manyLines && !across.isEmpty then "\n".intercalate across ++ "\n" else ""
  "regex parse error:\n" ++ divider ++ body ++ divider ++ notes ++ "error: " ++ f.kind.message

end Fault

end JsonRules.Pattern
