namespace JsonRules

/-- A finite double: its sign, and its magnitude counted in the least positive double `2 ^ (-1074)`.
-/
structure Double where
  negative : Bool
  units : Nat
deriving DecidableEq, Repr, Inhabited

/-- The integer nearest to `num / den`; a half goes to the even neighbour. -/
def roundQuotient (num den : Nat) : Nat :=
  let q := num / den
  let r := num % den
  if 2 * r < den ∨ (2 * r = den ∧ q % 2 = 0) then q else q + 1

namespace Double

def unitsPerOne : Nat := Nat.pow 2 1074

def unitsLimit : Nat := Nat.pow 2 2098

/-- The distance of neighbouring doubles at a magnitude: they have 53 bits. -/
def spacing (units : Nat) : Nat :=
  Nat.pow 2 (units.log2 - 52)

/-- The magnitude of a double, if the range were unbounded, that is nearest to `num / den` units. -/
def nearestUnits (num den : Nat) : Nat :=
  let step := spacing (num / den)
  roundQuotient num (den * step) * step

def ofUnits? (negative : Bool) (num den : Nat) : Option Double :=
  let units := nearestUnits num den
  if units < unitsLimit then some ⟨negative, units⟩ else none

def ofInt (i : Int) : Double :=
  ⟨decide (i < 0), nearestUnits (i.natAbs * unitsPerOne) 1⟩

def neg (d : Double) : Double := { d with negative := !d.negative }

/-- The value in units; the two zeros have the same value. -/
def value (d : Double) : Int :=
  if d.negative then -(d.units : Int) else d.units

def mul? (a b : Double) : Option Double :=
  ofUnits? (a.negative != b.negative) (a.units * b.units) unitsPerOne

def div? (a b : Double) : Option Double :=
  ofUnits? (a.negative != b.negative) (a.units * unitsPerOne) b.units

def powerOfTen (n : Nat) : Double :=
  ⟨false, nearestUnits (Nat.pow 10 n * unitsPerOne) 1⟩

def isWhole (d : Double) : Bool :=
  d.units % unitsPerOne == 0

def maxPower : Nat := 308

/-- Divides `d` by `10 ^ n`, at most `maxPower` powers at a time, and rounds after each division. -/
def shiftDown (d : Double) (n : Nat) : Option Double :=
  if _h : maxPower < n then
    if d.units = 0 then some d
    else (d.div? (powerOfTen maxPower)).bind (·.shiftDown (n - maxPower))
  else d.div? (powerOfTen n)
termination_by n
decreasing_by exact Nat.sub_lt (Nat.zero_lt_of_lt _h) (by decide)

def shiftUp (d : Double) (n : Nat) : Option Double :=
  if maxPower < n then
    if d.units = 0 then some d else none
  else d.mul? (powerOfTen n)

/-- The double that a decimal `significand * 10 ^ exponent` is read as: the significand is rounded
first and then scaled, so the result may differ from the nearest double in its last bits. -/
def ofScaled? (significand : Nat) (exponent : Int) : Option Double :=
  let d := ofInt significand
  if exponent < 0 then d.shiftDown exponent.natAbs else d.shiftUp exponent.natAbs

def decimalLength (n : Nat) : Nat :=
  if n = 0 then 0 else decimalLength (n / 10) + 1

/-- The double nearest to `significand * 10 ^ exponent`, unless it overflows. Decimals that are far
out of the range are not written out. -/
def ofDecimal? (significand : Nat) (exponent : Int) : Option Double :=
  let magnitude := decimalLength significand + exponent
  if significand = 0 ∨ magnitude < -400 then some ⟨false, 0⟩
  else if 400 < magnitude then none
  else if exponent < 0 then
    ofUnits? false (significand * unitsPerOne) (Nat.pow 10 exponent.natAbs)
  else ofUnits? false (significand * Nat.pow 10 exponent.natAbs * unitsPerOne) 1

end Double

end JsonRules
