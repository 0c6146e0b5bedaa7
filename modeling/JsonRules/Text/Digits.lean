namespace JsonRules.Text

def digitValue (c : Char) : Nat := c.toNat - '0'.toNat

def decimalValue (digits : List Char) : Nat :=
  digits.foldl (fun n c => n * 10 + digitValue c) 0

def hexDigit? (c : Char) : Option Nat :=
  if c.isDigit then some (digitValue c)
  else if 'a' ≤ c ∧ c ≤ 'f' then some (c.toNat - 'a'.toNat + 10)
  else if 'A' ≤ c ∧ c ≤ 'F' then some (c.toNat - 'A'.toNat + 10)
  else none

def hexValue (digits : List Nat) : Nat := digits.foldl (fun n d => n * 16 + d) 0

/-- The character with a code point, at most the last one and no surrogate. -/
def charOf? (codePoint : Nat) : Option Char :=
  if codePoint < 0xD800 ∨ 0xDFFF < codePoint ∧ codePoint < 0x110000 then some (Char.ofNat codePoint)
  else none

end JsonRules.Text
