import JsonRules.Text.Blank

namespace JsonRules.Json

inductive TextFault where
  | endInValue
  | endInString
  | endInList
  | endInObject
  | expectedValue
  | expectedWord
  | expectedColon
  | expectedListEnd
  | expectedObjectEnd
  | keyNotString
  | trailingComma
  | trailingText
  | numberOutOfRange
  | invalidNumber
  | invalidEscape
  | controlCharacter
  | loneSurrogate
  | unfinishedSurrogate
  | nestedTooDeep
deriving DecidableEq, Repr

def TextFault.message : TextFault → String
  | endInValue => "EOF while parsing a value"
  | endInString => "EOF while parsing a string"
  | endInList => "EOF while parsing a list"
  | endInObject => "EOF while parsing an object"
  | expectedValue => "expected value"
  | expectedWord => "expected ident"
  | expectedColon => "expected `:`"
  | expectedListEnd => "expected `,` or `]`"
  | expectedObjectEnd => "expected `,` or `\x7d`"
  | keyNotString => "key must be a string"
  | trailingComma => "trailing comma"
  | trailingText => "trailing characters"
  | numberOutOfRange => "number out of range"
  | invalidNumber => "invalid number"
  | invalidEscape => "invalid escape"
  | controlCharacter => "control character (\\u0000-\\u001F) found while parsing a string"
  | loneSurrogate => "lone leading surrogate in hex escape"
  | unfinishedSurrogate => "unexpected end of hex escape"
  | nestedTooDeep => "recursion limit exceeded"

/-- A fault, and the number of bytes of the text that lie beyond the place it is reported at. -/
structure TextError where
  fault : TextFault
  bytesLeft : Nat
deriving DecidableEq, Repr

/-- The fault lies between what was read and `rest`. -/
def TextFault.before (fault : TextFault) (rest : List Char) : TextError :=
  ⟨fault, Text.byteLength rest⟩

/-- The fault is the first byte of `rest`. -/
def TextFault.at (fault : TextFault) (rest : List Char) : TextError :=
  ⟨fault, Text.byteLength rest - 1⟩

/-- The line, from one, and the number of bytes of it that lie in the first `bytes` bytes of a text.
-/
def lineColumn : List Char → Nat → Nat × Nat
  | text, bytes => go text bytes 1 0
where
  go : List Char → Nat → Nat → Nat → Nat × Nat
  | [], _, line, column => (line, column)
  | c :: text, bytes, line, column =>
    if bytes = 0 then (line, column)
    else if c = '\n' then go text (bytes - 1) (line + 1) 0
    else go text (bytes - c.utf8Size) line (column + min bytes c.utf8Size)

def TextError.message (text : String) (e : TextError) : String :=
  let (line, column) := lineColumn text.toList (text.utf8ByteSize - e.bytesLeft)
  e.fault.message ++ " at line " ++ toString line ++ " column " ++ toString column

end JsonRules.Json
