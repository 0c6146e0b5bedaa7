import JsonRules.Pattern.Nesting
import JsonRules.Pattern.Tree
import JsonRules.Text.Utf8

namespace JsonRules.Pattern

/-- A simplified pattern. Sequences and choices are nested to the right, no sequence has an empty
part or two texts side by side, and no choice is a branch of another. -/
inductive Shape where
  | empty
  | text (chars : List Char)
  /-- One of several texts. -/
  | words (texts : List (List Char))
  | set (codes : Text.Ranges)
  | condition (c : Condition)
  | copies (a : Shape) (least : Nat) (most : Option Nat)
  | captured (a : Shape)
  | seq (a b : Shape)
  | either (a b : Shape)
deriving DecidableEq, Repr

namespace Shape

def readsNothing : Shape → Bool
  | empty => true
  | condition _ => true
  | copies a _ _ => a.readsNothing
  | captured a => a.readsNothing
  | seq a b => a.readsNothing && b.readsNothing
  | either a b => a.readsNothing && b.readsNothing
  | _ => false

/-- The number of characters of the shortest match, if no part is a set of no characters. -/
def shortest? : Shape → Option Nat
  | empty => some 0
  | text chars => some chars.length
  | words texts => (texts.map List.length).min?
  | set codes => if codes.isEmpty then none else some 1
  | condition _ => some 0
  | copies a least _ => a.shortest?.map (· * least)
  | captured a => a.shortest?
  | seq a b => return (← a.shortest?) + (← b.shortest?)
  | either a b => return min (← a.shortest?) (← b.shortest?)

def startsText : Shape → Bool
  | condition c => c == .textStart
  | copies a least _ => 0 < least && a.startsText
  | captured a => a.startsText
  | seq a b => a.startsText || a.readsNothing && b.startsText
  | either a b => a.startsText && b.startsText
  | _ => false

def endsText : Shape → Bool
  | condition c => c == .textEnd
  | copies a least _ => 0 < least && a.endsText
  | captured a => a.endsText
  | seq a b => b.endsText || b.readsNothing && a.endsText
  | either a b => a.endsText && b.endsText
  | _ => false

def captures : Shape → Bool
  | copies a _ _ => a.captures
  | captured _ => true
  | seq a b => a.captures || b.captures
  | either a b => a.captures || b.captures
  | _ => false

def parts : Shape → List Shape
  | empty => []
  | seq a b => a :: b.parts
  | a => [a]

def branches : Shape → List Shape
  | words texts => texts.map text
  | either a b => a :: b.branches
  | a => [a]

def before : Shape → Shape → Shape
  | a, empty => a
  | text s, text t => text (s ++ t)
  | text s, seq (text t) b => seq (text (s ++ t)) b
  | a, b => seq a b

def append (a b : Shape) : Shape := a.parts.foldr before b

def ofParts (parts : List Shape) : Shape := parts.foldr append empty

def ofRanges (codes : Text.Ranges) : Shape :=
  match codes with
  | [(first, last)] => if first = last then text [Char.ofNat first] else set codes
  | _ => set codes

def chars? : Shape → Option (List Char)
  | text chars => some chars
  | _ => none

def letter? : Shape → Option Char
  | text [c] => some c
  | _ => none

def codes? : Shape → Option Text.Ranges
  | set codes => some codes
  | _ => none

/-- A choice whose branches stay as they are. -/
def ofBranches (branches : List Shape) : Shape :=
  match branches.mapM chars? with
  | some texts => words texts
  | none => nest branches
where
  nest : List Shape → Shape
    | [] => set []
    | [a] => a
    | a :: rest => either a (nest rest)

/-- What two lists of parts begin with. No two groups that capture are the same. -/
def commonStart : List Shape → List Shape → List Shape
  | a :: s, b :: t => if a = b && !a.captures then a :: commonStart s t else []
  | _, _ => []

/-- The parts that all branches begin with; only sequences have such parts. -/
def sharedStart (branches : List Shape) : List Shape :=
  match branches.map seqParts with
  | [] => []
  | first :: rest => rest.foldl commonStart first
where
  seqParts : Shape → List Shape
    | seq a b => a :: b.parts
    | _ => []

/-- The choice of some branches; `steps` bounds how often something is taken in front of them. -/
def choice : Nat → List Shape → Shape
  | _, [a] => a
  | 0, list => ofBranches (list.flatMap branches)
  | steps + 1, list =>
    let list := list.flatMap branches
    match list.mapM letter?, list.mapM codes? with
    | some letters, _ => ofRanges (Text.Ranges.ofPoints (letters.map Char.toNat))
    | _, some sets => ofRanges (sets.foldl Text.Ranges.union [])
    | none, none =>
      let start := sharedStart list
      if start.isEmpty then ofBranches list
      else ofParts (start ++ [choice steps (list.map fun a => ofParts (a.parts.drop start.length))])

def repeated (a : Shape) (least : Nat) (most : Option Nat) : Shape :=
  match copyBounds a.readsNothing least most with
  | (0, some 0) => empty
  | (1, some 1) => a
  | (least, most) => copies a least most

/-- What can be taken in front of a choice is at most nested as deep as the pattern. -/
def oneOf (branches : List Shape) : Shape := choice depthLimit branches

def branchesOf : Tree → List Shape
  | .empty => [empty]
  | .condition c => [condition c]
  | .char cls => [ofRanges cls.ranges.scalars]
  | .either a b => oneOf (branchesOf a) :: branchesOf b
  | .seq a b => [append (oneOf (branchesOf a)) (oneOf (branchesOf b))]
  | .repeated a least most => [repeated (oneOf (branchesOf a)) least most]
  | .group true a => [captured (oneOf (branchesOf a))]
  | .group false a => [oneOf (branchesOf a)]

def ofTree (t : Tree) : Shape := oneOf (branchesOf t)

end Shape

end JsonRules.Pattern
