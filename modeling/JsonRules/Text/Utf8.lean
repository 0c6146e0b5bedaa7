import JsonRules.Text.Ranges

namespace JsonRules.Text

def utf8Bytes (text : List Char) : List Nat :=
  text.flatMap fun c => (String.utf8EncodeChar c).map UInt8.toNat

/-- A block of characters: for each of their bytes the range that it may come from. -/
abbrev ByteBlock := List (Nat × Nat)

/-- The blocks of the numbers `first` to `last`, written with a digit and then as many digits of
base 64 as are told; `base` is added to the first digit, and 0x80 to the others. -/
def digitBlocks (base : Nat) : Nat → Nat → Nat → List ByteBlock
  | 0, first, last => [[(base + first, base + last)]]
  | rest + 1, first, last =>
    let unit := Nat.pow 64 (rest + 1)
    let low := first / unit
    let high := last / unit
    let under (digit first last : Nat) : List ByteBlock :=
      (digitBlocks 0x80 rest first last).map ((base + digit, base + digit) :: ·)
    if low = high then under low (first % unit) (last % unit)
    else
      let firstWhole := if first % unit = 0 then low else low + 1
      let afterWhole := if last % unit = unit - 1 then high + 1 else high
      (if low < firstWhole then under low (first % unit) (unit - 1) else []) ++
        (if firstWhole < afterWhole then
          [(base + firstWhole, base + afterWhole - 1) :: List.replicate (rest + 1) (0x80, 0xBF)]
        else []) ++
        (if afterWhole = high then under high 0 (last % unit) else [])

/-- The code points by the number of bytes after the first one, with what is added to the first. -/
def utf8Lengths : List (Nat × Nat × Nat × Nat) :=
  [(0, 0x7F, 0, 0), (0x80, 0x7FF, 0xC0, 1), (0x800, 0xFFFF, 0xE0, 2), (0x10000, 0x10FFFF, 0xF0, 3)]

def utf8Blocks (a : Ranges) : List ByteBlock :=
  a.flatMap fun (first, last) => utf8Lengths.flatMap fun (least, most, base, rest) =>
    if max first least ≤ min last most then
      digitBlocks base rest (max first least) (min last most)
    else []

/-- The code points of characters: those of the halves of surrogate pairs stand for none. -/
def Ranges.scalars (a : Ranges) : Ranges := a.inter [(0, 0xD7FF), (0xE000, lastCode)]

end JsonRules.Text
