namespace JsonRules.Pattern

/-- A place in a pattern: the characters before it, its line and its column, both from one. -/
structure Place where
  offset : Nat
  line : Nat
  column : Nat
deriving DecidableEq, Repr

def Place.start : Place := ⟨0, 1, 1⟩

def Place.next (p : Place) (c : Char) : Place :=
  if c = '\n' then ⟨p.offset + 1, p.line + 1, 1⟩ else ⟨p.offset + 1, p.line, p.column + 1⟩

structure Span where
  first : Place
  last : Place
deriving DecidableEq, Repr

end JsonRules.Pattern
