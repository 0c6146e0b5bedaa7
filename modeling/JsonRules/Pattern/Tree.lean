import JsonRules.Pattern.Regex

namespace JsonRules.Pattern

/-- A pattern as it is written: repetitions keep their counts, and groups are kept. -/
inductive Tree where
  | empty
  | condition (c : Condition)
  | char (cls : CharClass)
  | either (a b : Tree)
  | seq (a b : Tree)
  /-- At least `least` copies and at most `most`, if there is a bound. -/
  | repeated (a : Tree) (least : Nat) (most : Option Nat)
  | group (captures : Bool) (a : Tree)
deriving DecidableEq, Repr

/-- The bounds of a repetition. Of copies that read nothing, one does the work of many. -/
def copyBounds (readsNothing : Bool) (least : Nat) (most : Option Nat) : Nat × Option Nat :=
  if readsNothing then (min least 1, some (min (most.getD 1) 1)) else (least, most)

namespace Tree

def concat : List Tree → Tree
  | [] => empty
  | [a] => a
  | a :: rest => seq a (concat rest)

def choice : List Tree → Tree
  | [] => empty
  | [a] => a
  | a :: rest => either a (choice rest)

/-- Whether the tree is written so that it can match the empty text only. -/
def readsNothing : Tree → Bool
  | empty => true
  | condition _ => true
  | char _ => false
  | either a b => a.readsNothing && b.readsNothing
  | seq a b => a.readsNothing && b.readsNothing
  | repeated a _ most => most == some 0 || a.readsNothing
  | group _ a => a.readsNothing

def toRegex : Tree → Regex
  | empty => .empty
  | condition c => .condition c
  | char cls => .char false cls
  | either a b => .either a.toRegex b.toRegex
  | seq a b => .seq a.toRegex b.toRegex
  | repeated a least most =>
    match copyBounds a.readsNothing least most with
    | (0, none) => .many a.toRegex
    | (least, none) => .seq (a.toRegex.power least) (.many a.toRegex)
    | (least, some most) => .seq (a.toRegex.power least) (a.toRegex.upTo (most - least))
  | group _ a => a.toRegex

end Tree

end JsonRules.Pattern
