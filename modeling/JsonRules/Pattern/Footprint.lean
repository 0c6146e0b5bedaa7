import Std.Data.TreeMap
import JsonRules.Pattern.Shape

namespace JsonRules.Pattern

def sizeLimit : Nat := 10485760

def stateSize : Nat := 32

/-- The number of bytes that a transition takes, in a state that has several or none. -/
def edgeSize : Nat := 8

/-- The number of bytes that a way to go on takes, in a state that branches. -/
def branchSize : Nat := 4

/-- What an automaton takes so far. States are numbered in the order of their making. -/
structure Footprint where
  states : Nat
  bytes : Nat
deriving DecidableEq, Repr

/-- Adds the states of some part, if the automaton does not grow too large. -/
abbrev Layout := Footprint → Option Footprint

namespace Layout

def states (count extra : Nat) : Layout := fun f =>
  let bytes := f.bytes + stateSize * count + extra
  if bytes ≤ sizeLimit then some ⟨f.states + count, bytes⟩ else none

def andThen (a b : Layout) : Layout := fun f => (a f).bind b

def fork : Layout := states 1 (2 * branchSize)

def times (a : Layout) : Nat → Layout
  | 0, f => some f
  | n + 1, f =>
    match a f with
    | some f => times a n f
    | none => none

/-- Several branches: after the second one come a state that branches and one where all end. -/
def choice : List Layout → Layout
  | [] => some
  | [a] => a
  | a :: b :: rest =>
    rest.foldl andThen
      ((a.andThen b).andThen (states 2 (branchSize * (rest.length + 2))))

/-- Copies of a part. The way back out of a part that may read nothing needs states of its own. -/
def copies (a : Layout) (alwaysReads : Bool) : Nat → Option Nat → Layout
  | 0, some 1 => (fork.andThen a).andThen (states 1 0)
  | 0, none =>
    if alwaysReads then fork.andThen a else ((a.andThen fork).andThen fork).andThen (states 1 0)
  | least, none => (times a least).andThen fork
  | least, some most =>
    if least = most then times a least
    else
      ((if least = 0 then states 1 0 else times a least).andThen (states 1 0)).andThen
        (times (fork.andThen a) (most - least))

end Layout

/-- The states that were made for some keys. There are so many slots, and in each of them only the
last state is found again. -/
structure Memo where
  slotCount : Nat
  slots : Std.TreeMap Nat (List Nat × Nat) := {}

namespace Memo

def slot (m : Memo) (key : List Nat) : Nat :=
  let hash := key.foldl (fun (h : UInt64) n => (h ^^^ n.toUInt64) * 1099511628211)
    14695981039346656037
  hash.toNat % m.slotCount

/-- The state for a key, which is made if it is not found; `extra` is the number of bytes that it
then takes more than all states do. -/
def state (key : List Nat) (extra : Nat) (f : Footprint) (m : Memo) :
    Option (Nat × Footprint × Memo) :=
  let slot := m.slot key
  let made := do
    let grown ← Layout.states 1 extra f
    return (f.states, grown, { m with slots := m.slots.insert slot (key, f.states) })
  match m.slots[slot]? with
  | some (k, state) => if k = key then some (state, f, m) else made
  | none => made

end Memo

namespace Layout

/-- The states that read one of some blocks forward and go on to `target`. Blocks that begin alike
share a transition, and states with the same transitions are one; `depth` bounds the length of
blocks. -/
def blocksForward (target : Nat) : Nat → List Text.ByteBlock → Footprint → Memo →
    Option (Nat × Footprint × Memo)
  | 0, _, f, m => some (target, f, m)
  | depth + 1, blocks, f, m =>
    if blocks.head?.all List.isEmpty then some (target, f, m)
    else do
      let groups := blocks.splitBy fun a b => a.head? == b.head?
      let (key, f, m) ← groups.foldlM (fun (key, f, m) group => do
        let (first, last) := (group.head?.bind List.head?).getD (0, 0)
        let (next, f, m) ← blocksForward target depth (group.map List.tail) f m
        return (key ++ [first, last, next], f, m)) (([] : List Nat), f, m)
      m.state key (edgeSize * groups.length) f

def blockBackward (target : Nat) : Text.ByteBlock → Footprint → Memo →
    Option (Footprint × Memo)
  | [], f, m => some (f, m)
  | (first, last) :: block, f, m =>
    match m.state [target, first, last] 0 f with
    | some (state, f, m) => blockBackward state block f m
    | none => none

def set (backward : Bool) (codes : Text.Ranges) : Layout :=
  if codes.all (·.2 < 128) then states 2 (edgeSize * codes.length)
  else
    let blocks := Text.utf8Blocks codes
    if backward then fun f => do
      let grown ← states 2 (branchSize * blocks.length) f
      let (g, _) ← blocks.foldlM (fun (g, m) block => blockBackward (f.states + 1) block g m)
        (grown, Memo.mk 1000 {})
      return g
    else fun f => do
      let grown ← states 1 0 f
      let (_, g, _) ← blocksForward f.states 5 blocks grown ⟨10000, {}⟩
      return g

/-- The runs of words between those that end here, the last one first. That a word ends here is told
once only if no word goes on. -/
def runs (words : List (List Nat)) : List (List (List Nat)) :=
  let (run, done) := words.foldl (fun (run, done) word =>
    if !word.isEmpty then (word :: run, done)
    else if run.isEmpty && !done.isEmpty && done.all List.isEmpty then (run, done)
    else ([], run.reverse :: done)) ([], [])
  run.reverse :: done

def byFirst (words : List (List Nat)) : List (List (List Nat)) :=
  (words.filterMap List.head?).eraseDups.map fun b =>
    (words.filter (·.head? == some b)).map List.tail

/-- The states that read one of some words, byte by byte, and the bytes that they take more than all
states do: words of a run share what they begin with. -/
def wordStates : Nat → List (List Nat) → Nat × Nat
  | 0, _ => (0, 0)
  | depth + 1, words =>
    let groups := (runs words).map byFirst
    let full := groups.filter (!·.isEmpty)
    if full.isEmpty then (0, 0)
    else
      let below := full.flatten.map (wordStates depth)
      let edges := (full.map List.length).filter (1 < ·)
      (full.length + 1 + (below.map (·.1)).sum,
        branchSize * (full.length + groups.length - 1) + edgeSize * edges.sum +
          (below.map (·.2)).sum)

def words (backward : Bool) (texts : List (List Char)) : Layout :=
  let bytes := texts.map fun text =>
    if backward then (Text.utf8Bytes text).reverse else Text.utf8Bytes text
  let (count, extra) := wordStates (bytes.foldl (fun n word => max n word.length) 0) bytes
  states (count + 1) extra

end Layout

namespace Shape

/-- The layouts of the branches of a shape. Only the automaton that reads forward marks groups. -/
def layouts (backward : Bool) : Shape → List Layout
  | empty => [.states 1 0]
  | text chars => [.states (Text.byteLength chars) 0]
  | words texts => [.words backward texts]
  | set codes => [.set backward codes]
  | condition _ => [.states 1 0]
  | copies a least most =>
    [(Layout.choice (a.layouts backward)).copies (a.shortest?.any (0 < ·)) least most]
  | captured a =>
    let inside := Layout.choice (a.layouts backward)
    if backward then [inside]
    else [((Layout.states 1 0).andThen inside).andThen (.states 1 0)]
  | seq a b =>
    let first := Layout.choice (a.layouts backward)
    let second := Layout.choice (b.layouts backward)
    [if backward then second.andThen first else first.andThen second]
  | either a b => Layout.choice (a.layouts backward) :: b.layouts backward

/-- An automaton for the whole pattern. In front it has states that pass over any bytes, unless each
match begins where reading begins. -/
def automaton (backward : Bool) (s : Shape) : Layout :=
  let anchored := if backward then s.endsText else s.startsText
  let front : Layout :=
    if anchored then .states 1 0 else .states 3 (edgeSize + 2 * branchSize)
  let marked := if backward then s else captured s
  (front.andThen (Layout.choice (marked.layouts backward))).andThen (.states 1 0)

def fits (s : Shape) : Bool :=
  (s.automaton false ⟨0, 0⟩).isSome && (s.automaton true ⟨0, 0⟩).isSome

end Shape

end JsonRules.Pattern
