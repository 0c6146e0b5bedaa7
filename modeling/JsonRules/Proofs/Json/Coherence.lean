import JsonRules.Comparison
import JsonRules.Proofs.Json.Symmetry
import Mathlib.Logic.ExistsUnique

namespace JsonRules

namespace Json

def Comparable (a b : Json) : Prop :=
  (∃ m n, a = .number m ∧ b = .number n) ∨ ∃ s t, a = .string s ∧ b = .string t

theorem isSome_compare?_iff {a b : Json} : (a.compare? b).isSome = true ↔ a.Comparable b := by
  cases a <;> cases b <;> simp [compare?, Comparable]

theorem Comparable.exists_order {a b : Json} (h : a.Comparable b) : ∃ o, a.compare? b = some o :=
  Option.isSome_iff_exists.1 (isSome_compare?_iff.2 h)

theorem compare?_swap (a b : Json) : b.compare? a = (a.compare? b).map Ordering.swap := by
  cases a <;> cases b <;> try rfl
  · exact congrArg some (Number.compare_swap _ _)
  · apply congrArg some
    exact compareOfLessAndEq_eq_swap String.le_antisymm String.le_total String.not_le

/-- Equality and order are two functions, but for values that are ordered they agree. -/
theorem same_eq_of_compare? {a b : Json} {o : Ordering} (h : a.compare? b = some o) :
    a.same b = (o == .eq) := by
  obtain ⟨m, n, rfl, rfl⟩ | ⟨s, t, rfl, rfl⟩ := isSome_compare?_iff.1 (Option.isSome_of_eq_some h)
  · cases h
    rfl
  · have horder : o = .eq ↔ s = t := by
      rw [← Option.some.inj h]
      exact compareOfLessAndEq_eq_eq String.le_refl String.not_le
    rw [same, Bool.eq_iff_iff, beq_iff_eq, beq_iff_eq]
    exact horder.symm

end Json

namespace Comparison

def converse : Comparison → Comparison
  | gt => lt
  | gte => lte
  | lt => gt
  | lte => gte
  | c => c

def accepts : Comparison → Ordering → Bool
  | eq, o => o == .eq
  | neq, o => o != .eq
  | gt, o => o == .gt
  | gte, o => o != .lt
  | lt, o => o == .lt
  | lte, o => o != .gt

theorem accepts_converse (c : Comparison) (o : Ordering) :
    c.converse.accepts o.swap = c.accepts o := by
  cases c <;> cases o <;> rfl

variable {a b : Json}

/-- Of values that are ordered every comparison asks no more than their order. -/
theorem apply_of_compare? {o : Ordering} (h : a.compare? b = some o) (c : Comparison) :
    c.apply a b = some (c.accepts o) := by
  have hsame := Json.same_eq_of_compare? h
  cases c with
  | eq | neq => rw [apply, hsame]; rfl
  | gt | gte | lt | lte => rw [apply, h]; rfl

theorem apply_converse (a b : Document) (c : Comparison) :
    c.converse.apply b.json a.json = c.apply a.json b.json := by
  have hswap := Json.compare?_swap a.json b.json
  cases horder : a.json.compare? b.json with
  | some o =>
    rw [horder] at hswap
    rw [apply_of_compare? horder, apply_of_compare? hswap, accepts_converse]
  | none =>
    rw [horder] at hswap
    cases c <;> simp only [converse, apply, horder, hswap, Document.same_comm a b,
      Option.map_none]

/-- What the six comparisons of two values have to do with each other. -/
structure Coheres (a b : Json) : Prop where
  equality : eq.apply a b = some (a.same b)
  inequality : neq.apply a b = (eq.apply a b).map (!·)
  answered : ∀ c ∈ [gt, gte, lt, lte], (c.apply a b).isSome = true ↔ a.Comparable b
  exactly_one : a.Comparable b → ∃! c, c ∈ [lt, eq, gt] ∧ c.apply a b = some true
  at_least : a.Comparable b →
    (gte.apply a b = some true ↔ gt.apply a b = some true ∨ eq.apply a b = some true)
  at_most : a.Comparable b →
    (lte.apply a b = some true ↔ lt.apply a b = some true ∨ eq.apply a b = some true)
  swapped : ∀ c : Comparison, c.converse.apply b a = c.apply a b

theorem exactly_one_of_compare? {o : Ordering} (h : a.compare? b = some o) :
    ∃! c, c ∈ [lt, eq, gt] ∧ c.apply a b = some true := by
  simp only [apply_of_compare? h, Option.some.injEq]
  cases o with
  | lt => exact ⟨lt, by decide, fun c => by cases c <;> decide⟩
  | eq => exact ⟨eq, by decide, fun c => by cases c <;> decide⟩
  | gt => exact ⟨gt, by decide, fun c => by cases c <;> decide⟩

theorem coheres (a b : Document) : Coheres a.json b.json where
  equality := rfl
  inequality := rfl
  answered := by
    intro c hc
    rw [← Json.isSome_compare?_iff]
    simp only [List.mem_cons, List.not_mem_nil, or_false] at hc
    obtain rfl | rfl | rfl | rfl := hc <;> simp only [apply, Option.isSome_map]
  exactly_one := by
    intro h
    obtain ⟨o, ho⟩ := h.exists_order
    exact exactly_one_of_compare? ho
  at_least := by
    intro h
    obtain ⟨o, ho⟩ := h.exists_order
    simp only [apply_of_compare? ho]
    cases o <;> decide
  at_most := by
    intro h
    obtain ⟨o, ho⟩ := h.exists_order
    simp only [apply_of_compare? ho]
    cases o <;> decide
  swapped := apply_converse a b

/-- Equality by value is reflexive and symmetric, and the comparisons of any two documents fit
together. -/
theorem comparisons_cohere (a b : Document) :
    a.json.same a.json = true ∧ a.json.same b.json = b.json.same a.json ∧ Coheres a.json b.json :=
  ⟨a.same_refl, a.same_comm b, coheres a b⟩

section Prices

def ten : Document := ⟨.ofInt 10, trivial⟩

def tenPointZero : Document := ⟨.number (.double (Double.ofInt 10)), trivial⟩

def priced (price : Document) : Document where
  json := .object [("paid", .bool true), ("price", price.json)]
  ordered :=
    ⟨List.pairwise_pair.2 (show "paid" < "price" by decide), trivial, price.ordered, trivial⟩

/-- Two orders are the same from either side though their prices are written differently, and the
prices themselves are equal, and neither is less. -/
theorem comparisons_cohere_priced :
    (priced ten).json.same (priced tenPointZero).json = true ∧
      (priced tenPointZero).json.same (priced ten).json = true ∧
      (∃! c, c ∈ [lt, eq, gt] ∧ c.apply ten.json tenPointZero.json = some true) := by
  have hsame : (priced ten).json.same (priced tenPointZero).json = true := by decide +kernel
  obtain ⟨-, hcomm, -⟩ := comparisons_cohere (priced ten) (priced tenPointZero)
  obtain ⟨-, -, hprices⟩ := comparisons_cohere ten tenPointZero
  exact ⟨hsame, hcomm ▸ hsame, hprices.exactly_one (.inl ⟨_, _, rfl, rfl⟩)⟩

end Prices

end Comparison

end JsonRules
