import JsonRules.Pattern.Boundary
import JsonRules.Pattern.CharClass

namespace JsonRules.Pattern

/-- A regular expression. A mark on a character says that a match has just read this character. -/
inductive Regex where
  | empty
  | condition (c : Condition)
  | char (marked : Bool) (cls : CharClass)
  | either (a b : Regex)
  | seq (a b : Regex)
  | many (a : Regex)
deriving DecidableEq, Repr

namespace Regex

def nullable (here : Boundary) : Regex → Bool
  | empty => true
  | condition c => here.satisfies c
  | char _ _ => false
  | either a b => a.nullable here || b.nullable here
  | seq a b => a.nullable here && b.nullable here
  | many _ => true

/-- Whether some marked character can be the last one of a match that ends at a boundary. -/
def ended (here : Boundary) : Regex → Bool
  | empty => false
  | condition _ => false
  | char marked _ => marked
  | either a b => a.ended here || b.ended here
  | seq a b => a.ended here && b.nullable here || b.ended here
  | many a => a.ended here

/-- Reads `c`, the character after the boundary: marks move on to what may be read after them, and
with `enter` a match may also begin here. -/
def advance (here : Boundary) (c : Char) : Bool → Regex → Regex
  | _, empty => empty
  | _, condition k => condition k
  | enter, char _ cls => char (enter && cls.contains c) cls
  | enter, either a b => either (a.advance here c enter) (b.advance here c enter)
  | enter, seq a b =>
    seq (a.advance here c enter) (b.advance here c (enter && a.nullable here || a.ended here))
  | enter, many a => many (a.advance here c (enter || a.ended here))

/-- Whether a match ends somewhere in the rest of a text, or begins and ends in it; `before` is the
character in front of the rest. Each character costs one walk through the expression. -/
def search (r : Regex) (before : Option Char) : List Char → Bool
  | [] => r.ended ⟨before, none⟩ || r.nullable ⟨before, none⟩
  | c :: s =>
    let here := Boundary.mk before (some c)
    r.ended here || r.nullable here || (r.advance here c true).search (some c) s

/-- `n` copies, one after the other, halved again and again so that they lie at a small depth;
`steps` bounds the halvings. -/
def copies (r : Regex) : Nat → Nat → Regex
  | 0, _ => empty
  | steps + 1, n =>
    if n = 0 then empty
    else if n = 1 then r
    else
      let half := r.copies steps (n / 2)
      if n % 2 = 0 then seq half half else seq r (seq half half)

def power (r : Regex) (n : Nat) : Regex := r.copies n n

def upTo (r : Regex) (n : Nat) : Regex := (either empty r).power n

end Regex

end JsonRules.Pattern
