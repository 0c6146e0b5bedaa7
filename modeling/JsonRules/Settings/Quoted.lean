import JsonRules.Text.Digits

namespace JsonRules.Settings.Quoted

def codePoint? (count : Nat) (s : List Char) : Option Char := do
  let digits ← (s.take count).mapM Text.hexDigit?
  if digits.length < count then none else Text.charOf? (Text.hexValue digits)

def escape? : List Char → Option (Char × Nat)
  | '"' :: _ => some ('"', 1)
  | '\\' :: _ => some ('\\', 1)
  | 'b' :: _ => some ('\x08', 1)
  | 'f' :: _ => some ('\x0c', 1)
  | 'n' :: _ => some ('\n', 1)
  | 'r' :: _ => some ('\r', 1)
  | 't' :: _ => some ('\t', 1)
  | 'u' :: s => (codePoint? 4 s).map (·, 5)
  | 'U' :: s => (codePoint? 8 s).map (·, 9)
  | _ => none

/-- Controls other than the tab cannot stand between quotes. -/
def isPlain (c : Char) : Bool := c == '\t' || 0x20 ≤ c.val && c.val != 0x7f

def readEscaped? (s : List Char) : Option (String × List Char) :=
  go [] s
where
  go (read : List Char) : List Char → Option (String × List Char)
  | [] => none
  | '"' :: s => some (String.ofList read.reverse, s)
  | '\\' :: s =>
    match escape? s with
    | some (c, count) => go (c :: read) (s.drop count)
    | none => none
  | c :: s => if isPlain c then go (c :: read) s else none
  termination_by s => s.length
  decreasing_by
    · simp only [List.length_drop, List.length_cons]; omega
    · simp

def readLiteral? (s : List Char) : Option (String × List Char) :=
  let inside := s.takeWhile (· != '\'')
  match s.dropWhile (· != '\'') with
  | '\'' :: rest => if inside.all isPlain then some (String.ofList inside, rest) else none
  | _ => none

def dropLineEnd : List Char → List Char
  | '\n' :: s => s
  | '\r' :: '\n' :: s => s
  | s => s

def dropLayout : List Char → List Char
  | ' ' :: s => dropLayout s
  | '\t' :: s => dropLayout s
  | '\n' :: s => dropLayout s
  | '\r' :: '\n' :: s => dropLayout s
  | s => s

/-- What follows a backslash at the end of a line: the end of the line and all layout after it count
for nothing. -/
def continued? (s : List Char) : Option (List Char) :=
  match s.dropWhile fun c => c == ' ' || c == '\t' with
  | '\n' :: r => some (dropLayout r)
  | '\r' :: '\n' :: r => some (dropLayout r)
  | _ => none

/-- Reads up to three quotes in a row. Up to two quotes in front of those three belong to the text,
a line ends with a line feed however it is written, and `escapes` says whether a backslash counts;
`steps` bounds the characters. -/
def readLines? (quote : Char) (escapes : Bool) (read : List Char) :
    Nat → List Char → Option (String × List Char)
  | 0, _ => none
  | _, [] => none
  | steps + 1, c :: s =>
    if c == quote then
      let count := ((c :: s).takeWhile (· == quote)).length
      if count < 3 then readLines? quote escapes (c :: read) steps s
      else
        let inside := min (count - 3) 2
        some (String.ofList (List.replicate inside quote ++ read).reverse, s.drop (inside + 2))
    else if c == '\\' && escapes then
      match continued? s with
      | some r => readLines? quote escapes read steps r
      | none =>
        match escape? s with
        | some (k, count) => readLines? quote escapes (k :: read) steps (s.drop count)
        | none => none
    else if c == '\n' || c == '\r' && s.head? == some '\n' then
      readLines? quote escapes ('\n' :: read) steps (dropLineEnd (c :: s))
    else if isPlain c then readLines? quote escapes (c :: read) steps s
    else none

/-- Reads a text of one line or, between three quotes on each side, of several lines; an end of a
line right after the opening quotes does not belong to it. -/
def read? : List Char → Option (String × List Char)
  | '"' :: '"' :: '"' :: s => readLines? '"' true [] (s.length + 1) (dropLineEnd s)
  | '\'' :: '\'' :: '\'' :: s => readLines? '\'' false [] (s.length + 1) (dropLineEnd s)
  | '"' :: s => readEscaped? s
  | '\'' :: s => readLiteral? s
  | _ => none

end JsonRules.Settings.Quoted
