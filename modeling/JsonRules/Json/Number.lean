import JsonRules.Double.Shortest

namespace JsonRules

/-- A number of a document: an integer of at most 64 bits, or a double. One and the same value may
be written both ways, and the two writings are different numbers of equal value. -/
inductive Number where
  | integer (i : Int)
  | double (d : Double)
deriving DecidableEq, Repr

namespace Number

def wordLimit : Nat := Nat.pow 2 64

/-- Signed words are below this bound, and not below its negative. -/
def signedLimit : Nat := Nat.pow 2 63

/-- Integers that fit a signed word; no number is below these. -/
def signed? : Number → Option Int
  | integer i => if i < signedLimit then some i else none
  | double _ => none

def unsigned? : Number → Option Nat
  | integer i => if 0 ≤ i then some i.toNat else none
  | double _ => none

def toDouble : Number → Double
  | integer i => Double.ofInt i
  | double d => d

/-- Two signed words are compared first, then two unsigned words. Of a signed and an unsigned word
that are left the signed one is less, and whatever is no word is compared as a double. -/
def compare (a b : Number) : Ordering :=
  match a.signed?, b.signed?, a.unsigned?, b.unsigned? with
  | some i, some j, _, _ => Ord.compare i j
  | _, _, some m, some n => Ord.compare m n
  | some _, _, _, some _ => .lt
  | _, some _, some _, _ => .gt
  | _, _, _, _ => Ord.compare a.toDouble.value b.toDouble.value

section Words

variable {i j : Int}

theorem signed?_of_lt (h : i < signedLimit) : signed? (integer i) = some i := if_pos h

theorem signed?_of_le (h : (signedLimit : Int) ≤ i) : signed? (integer i) = none :=
  if_neg (Int.not_lt.2 h)

theorem unsigned?_of_nonneg (h : 0 ≤ i) : unsigned? (integer i) = some i.toNat := if_pos h

theorem unsigned?_of_neg (h : i < 0) : unsigned? (integer i) = none := if_neg (Int.not_le.2 h)

theorem compare_toNat (hi : 0 ≤ i) (hj : 0 ≤ j) :
    Ord.compare i.toNat j.toNat = Ord.compare i j := by
  obtain ⟨m, rfl⟩ := Int.eq_ofNat_of_zero_le hi
  obtain ⟨n, rfl⟩ := Int.eq_ofNat_of_zero_le hj
  simp only [Int.toNat_natCast, Ord.compare, compareOfLessAndEq, Int.ofNat_lt, Int.natCast_inj]

/-- Integers that are not both signed words are in the order of their unsigned words, or else one of
them is negative and the other one is beyond all signed words. -/
theorem compare_of_signedLimit_le (h : (signedLimit : Int) ≤ i ∨ (signedLimit : Int) ≤ j) :
    compare (integer i) (integer j) = Ord.compare i j := by
  have hlimit : (0 : Int) ≤ signedLimit := Int.natCast_nonneg signedLimit
  by_cases hni : i < 0
  · have hle : (signedLimit : Int) ≤ j := by omega
    have hlt : i < j := by omega
    simp only [compare, signed?_of_lt (Int.lt_of_lt_of_le hni hlimit), signed?_of_le hle,
      unsigned?_of_neg hni, unsigned?_of_nonneg (Int.le_trans hlimit hle), Int.compare_eq_lt.2 hlt]
  · by_cases hnj : j < 0
    · have hle : (signedLimit : Int) ≤ i := by omega
      have hlt : j < i := by omega
      simp only [compare, signed?_of_lt (Int.lt_of_lt_of_le hnj hlimit), signed?_of_le hle,
        unsigned?_of_neg hnj, unsigned?_of_nonneg (Int.le_trans hlimit hle),
        Int.compare_eq_gt.2 hlt]
    · have hunsigned := compare_toNat (Int.not_lt.1 hni) (Int.not_lt.1 hnj)
      rw [compare, unsigned?_of_nonneg (Int.not_lt.1 hni), unsigned?_of_nonneg (Int.not_lt.1 hnj)]
      obtain hle | hle := h
      · rw [signed?_of_le hle]
        exact hunsigned
      · rw [signed?_of_le hle]
        cases signed? (integer i) <;> exact hunsigned

/-- No two integers are ever compared as doubles. -/
theorem compare_integer (i j : Int) : compare (integer i) (integer j) = Ord.compare i j := by
  by_cases hi : i < signedLimit
  · by_cases hj : j < signedLimit
    · simp only [compare, signed?_of_lt hi, signed?_of_lt hj]
    · exact compare_of_signedLimit_le (.inr (Int.not_lt.1 hj))
  · exact compare_of_signedLimit_le (.inl (Int.not_lt.1 hi))

theorem compare_double_left (d : Double) (b : Number) :
    compare (double d) b = Ord.compare d.value b.toDouble.value := by
  cases b <;> simp [compare, signed?, unsigned?, toDouble]

theorem compare_double_right (a : Number) (d : Double) :
    compare a (double d) = Ord.compare a.toDouble.value d.value := by
  cases a <;> simp [compare, signed?, unsigned?, toDouble]

end Words

def isWhole : Number → Bool
  | integer _ => true
  | double d => d.isWhole

/-- Doubles are written without an exponent from five places after the point up to sixteen before
it, and a whole one keeps its point. -/
def layout : DecimalLayout where
  positional x := -5 ≤ x && x ≤ 15
  wholePoint := true

def text : Number → String
  | integer i => toString i
  | double d => layout.write d

end Number

end JsonRules
