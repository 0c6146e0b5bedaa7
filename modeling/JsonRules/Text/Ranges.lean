import JsonRules.Text.Digits

namespace JsonRules.Text

/-- A set of code points as closed ranges in increasing order. -/
abbrev Ranges := List (Nat × Nat)

namespace Ranges

def joinFrom (r : Nat × Nat) : Ranges → Ranges
  | [] => [r]
  | s :: rest =>
    if s.1 ≤ r.2 + 1 then joinFrom (r.1, max r.2 s.2) rest else r :: joinFrom s rest

def join : Ranges → Ranges
  | [] => []
  | r :: rest => joinFrom r rest

/-- The ranges of both lists in the order of their beginnings; the number bounds their count. -/
def interleave : Nat → Ranges → Ranges → Ranges
  | 0, _, _ => []
  | _, [], b => b
  | _, a, [] => a
  | count + 1, r :: a, s :: b =>
    if r.1 ≤ s.1 then r :: interleave count a (s :: b) else s :: interleave count (r :: a) b

def union (a b : Ranges) : Ranges := join (interleave (a.length + b.length) a b)

def lastCode : Nat := 0x10FFFF

def complementFrom (start : Nat) : Ranges → Ranges
  | [] => if start ≤ lastCode then [(start, lastCode)] else []
  | r :: rest =>
    if start < r.1 then (start, r.1 - 1) :: complementFrom (r.2 + 1) rest
    else complementFrom (r.2 + 1) rest

def complement (a : Ranges) : Ranges := complementFrom 0 a

def inter (a b : Ranges) : Ranges := complement (union (complement a) (complement b))

def contains (a : Ranges) (n : Nat) : Bool := a.any fun r => r.1 ≤ n && n ≤ r.2

def ofPoints (points : List Nat) : Ranges :=
  join ((points.mergeSort fun a b => a ≤ b).map fun n => (n, n))

def hexNumber (s : String) : Nat := hexValue (s.toList.filterMap hexDigit?)

/-- The code points of a run: one, all from the first to the last, or every so many of them. -/
def ofRun (run : String) : Ranges :=
  match run.splitOn "-" with
  | [first, rest] =>
    match rest.splitOn "/" with
    | [last, step] =>
      let count := (hexNumber last - hexNumber first) / hexNumber step
      (List.range (count + 1)).map fun i =>
        (hexNumber first + i * hexNumber step, hexNumber first + i * hexNumber step)
    | _ => [(hexNumber first, hexNumber rest)]
  | _ => [(hexNumber run, hexNumber run)]

/-- The ranges that a text of runs with blanks between them lists. Numbers are hexadecimal,
`first-last` is a range, and in `first-last/step` only every so many count. -/
def ofText (text : String) : Ranges :=
  ((text.splitOn "\n").flatMap (·.splitOn " ")).flatMap fun run =>
    if run.isEmpty then [] else ofRun run

end Ranges

abbrev RangeTable := Array (Nat × Nat)

def RangeTable.search (t : RangeTable) (n : Nat) (lo hi : Nat) : Bool :=
  if lo < hi then
    let mid := (lo + hi) / 2
    match t[mid]? with
    | none => false
    | some (first, last) =>
      if n < first then search t n lo mid
      else if last < n then search t n (mid + 1) hi
      else true
  else false
termination_by hi - lo

def RangeTable.contains (t : RangeTable) (c : Char) : Bool :=
  t.search c.toNat 0 t.size

end JsonRules.Text
