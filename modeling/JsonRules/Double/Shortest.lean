import JsonRules.Double.Basic

namespace JsonRules

structure Decimal where
  digits : Nat
  exponent : Int
deriving DecidableEq, Repr

namespace Decimal

def magnitude (d : Decimal) : Int :=
  d.exponent + (Double.decimalLength d.digits - 1 : Nat)

/-- The same value with no zero at the end of the digits. -/
def normalize (d : Decimal) : Decimal :=
  if d.digits ≠ 0 ∧ d.digits % 10 = 0 then normalize ⟨d.digits / 10, d.exponent + 1⟩ else d
termination_by d.digits

end Decimal

namespace Double

def decimalMagnitude (units : Nat) : Int :=
  if unitsPerOne ≤ units then (decimalLength (units / unitsPerOne) - 1 : Nat)
  else -(decimalLength ((unitsPerOne - 1) / units) : Nat)

/-- The interval of magnitudes that round to `units`, in quarters of a unit. -/
structure Rounding where
  low : Nat
  value : Nat
  high : Nat
  closed : Bool

/-- The lower neighbour of a power of two is half as far away as the upper one. -/
def rounding (units : Nat) : Rounding where
  low := if 1 < spacing units ∧ units = Nat.pow 2 units.log2 then 4 * units - spacing units
    else 4 * units - 2 * spacing units
  value := 4 * units
  high := 4 * units + 2 * spacing units
  closed := units / spacing units % 2 == 0

def Rounding.holds (r : Rounding) (x scale : Nat) : Bool :=
  if r.closed then r.low * scale ≤ x && x ≤ r.high * scale
  else r.low * scale < x && x < r.high * scale

/-- The multiple of `10 ^ power` that rounds to the value, if there is one: of two the nearer, of
two equally near ones the even. -/
def gridPoint? (r : Rounding) (power : Int) : Option Nat :=
  let scale := if power < 0 then Nat.pow 10 power.natAbs else 1
  let step := if power < 0 then 4 * unitsPerOne else Nat.pow 10 power.natAbs * (4 * unitsPerOne)
  let below := r.value * scale / step
  let above := below + 1
  let nearer := roundQuotient (r.value * scale) step
  match r.holds (below * step) scale, r.holds (above * step) scale with
  | true, true => some nearer
  | true, false => some below
  | false, true => some above
  | false, false => none

def shortestFrom (r : Rounding) (power : Int) : Nat → Decimal
  | 0 => ⟨0, 0⟩
  | left + 1 =>
    match gridPoint? r power with
    | some digits => ⟨digits, power⟩
    | none => shortestFrom r (power - 1) left

/-- The decimal with the fewest digits that rounds to the magnitude; 17 digits always do. -/
def shortest (units : Nat) : Decimal :=
  if units = 0 then ⟨0, 0⟩
  else (shortestFrom (rounding units) (decimalMagnitude units) 17).normalize

end Double

structure DecimalLayout where
  /-- Whether a number whose leading digit has this exponent is written without an exponent. -/
  positional : Int → Bool
  /-- Whether a whole number keeps a point and a zero. -/
  wholePoint : Bool

namespace DecimalLayout

def writePositional (l : DecimalLayout) (d : Decimal) : String :=
  let digits := toString d.digits
  let whole := d.magnitude + 1
  if 0 ≤ d.exponent then
    digits ++ "".pushn '0' d.exponent.toNat ++ (if l.wholePoint then ".0" else "")
  else if 0 < whole then
    String.ofList (digits.toList.take whole.toNat ++ '.' :: digits.toList.drop whole.toNat)
  else "0." ++ "".pushn '0' whole.natAbs ++ digits

def writeScientific (d : Decimal) : String :=
  let sign := if d.magnitude < 0 then "-" else "+"
  let rest := (toString d.digits).toList.drop 1
  String.ofList ((toString d.digits).toList.take 1 ++ (if rest.isEmpty then [] else '.' :: rest)) ++
    "e" ++ sign ++ toString d.magnitude.natAbs

/-- A double with the fewest digits that read back as the same double. -/
def write (l : DecimalLayout) (d : Double) : String :=
  let decimal := Double.shortest d.units
  (if d.negative then "-" else "") ++
    (if l.positional decimal.magnitude then l.writePositional decimal else writeScientific decimal)

end DecimalLayout

end JsonRules
