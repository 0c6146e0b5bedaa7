import JsonRules.Proofs.Json.Coherence
import JsonRules.Proofs.Json.Transitivity

namespace JsonRules

namespace Comparison

/-- The relation of two integers that a comparison stands for. -/
def OnIntegers : Comparison → Int → Int → Prop
  | eq, m, n => m = n
  | neq, m, n => m ≠ n
  | gt, m, n => m > n
  | gte, m, n => m ≥ n
  | lt, m, n => m < n
  | lte, m, n => m ≤ n

instance (c : Comparison) (m n : Int) : Decidable (c.OnIntegers m n) :=
  match c with
  | eq => inferInstanceAs (Decidable (m = n))
  | neq => inferInstanceAs (Decidable (m ≠ n))
  | gt => inferInstanceAs (Decidable (m > n))
  | gte => inferInstanceAs (Decidable (m ≥ n))
  | lt => inferInstanceAs (Decidable (m < n))
  | lte => inferInstanceAs (Decidable (m ≤ n))

theorem apply_ofInt (c : Comparison) (m n : Int) :
    c.apply (.ofInt m) (.ofInt n) = some (decide (c.OnIntegers m n)) := by
  have horder : (Json.ofInt m).compare? (.ofInt n) = some (Ord.compare m n) :=
    congrArg some (Number.compare_integer m n)
  have hdecide {b : Bool} {p : Prop} [Decidable p] (h : b = true ↔ p) :
      some b = some (decide p) := by
    rw [Bool.eq_iff_iff.2 (h.trans decide_eq_true_iff.symm)]
  rw [apply_of_compare? horder]
  cases c with
  | eq => exact hdecide (beq_iff_eq.trans Int.compare_eq_eq)
  | neq => exact hdecide (bne_iff_ne.trans (not_congr Int.compare_eq_eq))
  | gt => exact hdecide (beq_iff_eq.trans Int.compare_eq_gt)
  | gte => exact hdecide (bne_iff_ne.trans Int.compare_ne_lt)
  | lt => exact hdecide (beq_iff_eq.trans Int.compare_eq_lt)
  | lte => exact hdecide (bne_iff_ne.trans Int.compare_ne_gt)

end Comparison

namespace Json

inductive Integral : Json → Prop
  | null : Integral .null
  | bool (b : Bool) : Integral (.bool b)
  | integer (i : Int) : Integral (.number (.integer i))
  | string (s : String) : Integral (.string s)
  | array {items : List Json} : (∀ v ∈ items, Integral v) → Integral (.array items)
  | object {members : List (String × Json)} :
      (∀ entry ∈ members, Integral entry.2) → Integral (.object members)

/-- Two values are one document. Arrays are taken item by item, and objects as finite maps: they
have the same keys, with one document under each. -/
inductive OneDocument : Json → Json → Prop
  | null : OneDocument .null .null
  | bool (b : Bool) : OneDocument (.bool b) (.bool b)
  | number (n : Number) : OneDocument (.number n) (.number n)
  | string (s : String) : OneDocument (.string s) (.string s)
  | array {xs ys : List Json} : List.Forall₂ OneDocument xs ys →
      OneDocument (.array xs) (.array ys)
  | object {xs ys : List (String × Json)} :
      (∀ key, key ∈ Members.keys xs ↔ key ∈ Members.keys ys) →
        (∀ key x y, xs.lookup key = some x → ys.lookup key = some y → OneDocument x y) →
        OneDocument (.object xs) (.object ys)

theorem oneDocument_refl (v : Json) : OneDocument v v := by
  induction v with
  | null => exact .null
  | bool b => exact .bool b
  | number n => exact .number n
  | string s => exact .string s
  | array items ih => exact .array (List.forall₂_same.2 ih)
  | object members ih =>
    refine .object (fun key => Iff.rfl) ?_
    intro key x y hx hy
    rw [hx] at hy
    cases hy
    exact ih (key, x) (Members.mem_of_lookup key x hx)

/-- In order there is but one way to write a finite map. -/
theorem eq_of_oneDocument {a b : Document} (h : OneDocument a.json b.json) : a.json = b.json := by
  obtain ⟨a, ha⟩ := a
  obtain ⟨b, hb⟩ := b
  dsimp only at h ⊢
  induction a generalizing b with
  | null | bool | number | string =>
    cases h
    rfl
  | array xs ih =>
    cases h with
    | array hall =>
      apply congrArg array
      apply eq_of_forall₂_of_mem _ hall
      intro x hx y hy hxy
      exact ih x hx (ha.of_mem_items hx) y (hb.of_mem_items hy) hxy
  | object xs ih =>
    cases h with
    | @object _ ys hkeys hvalues =>
      apply congrArg object
      apply SortedMembers.members_eq_of_lookup ⟨xs, ha.1⟩ ⟨ys, hb.1⟩
      · have hperm := (List.perm_ext_iff_of_nodup ha.1.nodup_keys hb.1.nodup_keys).2 hkeys
        simpa [Members.keys] using hperm.length_eq
      · intro p hp
        have hkey := (hkeys p.1).1 (List.mem_map_of_mem hp)
        obtain ⟨y, hy⟩ := Members.exists_lookup_of_mem_keys p.1 _ hkey
        have hone := hvalues p.1 p.2 y (SortedMembers.lookup_of_mem ⟨xs, ha.1⟩ hp) hy
        have hordered := hb.of_mem_members (Members.mem_of_lookup p.1 y hy)
        rw [hy, ih p hp (ha.of_mem_members hp) y hordered hone]

theorem oneDocument_iff_eq {a b : Document} : OneDocument a.json b.json ↔ a.json = b.json :=
  ⟨eq_of_oneDocument, fun h => h ▸ oneDocument_refl a.json⟩

theorem Integral.of_mem_items {items : List Json} (h : Integral (.array items)) {v : Json}
    (hv : v ∈ items) : v.Integral := by
  cases h with
  | array hall => exact hall v hv

theorem Integral.of_mem_members {members : List (String × Json)} (h : Integral (.object members))
    {entry : String × Json} (hentry : entry ∈ members) : entry.2.Integral := by
  cases h with
  | object hall => exact hall entry hentry

/-- Without doubles equality by value leaves no difference at any depth. -/
theorem eq_of_same {a b : Document} (hia : a.json.Integral) (hib : b.json.Integral)
    (h : a.json.same b.json = true) : a.json = b.json := by
  obtain ⟨a, ha⟩ := a
  obtain ⟨b, hb⟩ := b
  dsimp only at hia hib h ⊢
  induction a generalizing b with
  | null => exact (null_same_iff.1 h).symm
  | bool x => exact (bool_same_iff.1 h).symm
  | string s => exact (string_same_iff.1 h).symm
  | number m =>
    obtain ⟨n, rfl, hmn⟩ := number_same_iff.1 h
    cases hia with
    | integer i =>
      cases hib with
      | integer j =>
        rw [Number.compare_integer, Int.compare_eq_eq] at hmn
        rw [hmn]
  | array xs ih =>
    obtain ⟨ys, rfl, hall⟩ := array_same_iff.1 h
    apply congrArg array
    apply eq_of_forall₂_of_mem _ hall
    intro x hx y hy hxy
    exact ih x hx (ha.of_mem_items hx) (hia.of_mem_items hx) y (hb.of_mem_items hy)
      (hib.of_mem_items hy) hxy
  | object xs ih =>
    obtain ⟨ys, rfl, hlength, hvalues⟩ := object_same_iff.1 h
    apply congrArg object
    apply SortedMembers.members_eq_of_lookup ⟨xs, ha.1⟩ ⟨ys, hb.1⟩ hlength
    intro p hp
    obtain ⟨y, hy, hsame⟩ := hvalues p hp
    have hmem := Members.mem_of_lookup p.1 y hy
    rw [hy, ih p hp (ha.of_mem_members hp) (hia.of_mem_members hp) y (hb.of_mem_members hmem)
      (hib.of_mem_members hmem) hsame]

end Json

namespace Comparison

/-- Integers are compared exactly, and documents without doubles are equal by value only if they are
one document. -/
theorem integers_compare_exactly :
    (∀ m n : Int,
      (∀ c : Comparison, c.apply (.ofInt m) (.ofInt n) = some (decide (c.OnIntegers m n))) ∧
        Number.compare (.integer m) (.integer n) = Ord.compare m n) ∧
    ∀ a b : Document, a.json.Integral → b.json.Integral →
      (a.json.same b.json = true ↔ Json.OneDocument a.json b.json) := by
  refine ⟨?_, ?_⟩
  · intro m n
    exact ⟨fun c => apply_ofInt c m n, Number.compare_integer m n⟩
  · intro a b ha hb
    rw [Json.oneDocument_iff_eq]
    refine ⟨Json.eq_of_same ha hb, ?_⟩
    intro heq
    rw [← heq]
    exact a.same_refl

section Edges

theorem integral_nested {v : Json} (h : v.Integral) : (nested v).Integral := by
  apply Json.Integral.object
  intro entry hentry
  rw [List.mem_singleton.1 hentry]
  apply Json.Integral.array
  intro w hw
  obtain rfl | hw := List.mem_cons.1 hw
  · exact .null
  · rw [List.mem_singleton.1 hw]
    exact h

def nestedInteger (i : Int) : Document :=
  ⟨nested (.ofInt i), List.pairwise_singleton _ _, ⟨trivial, trivial, trivial⟩, trivial⟩

/-- The greatest two words are told apart, and so are neighbours that are one and the same double,
alone and deep in a document. -/
theorem compare_at_word_edges :
    gt.apply (.ofInt 18446744073709551615) (.ofInt 18446744073709551614) = some true ∧
      Number.compare (.integer (-9223372036854775808)) (.integer 9223372036854775808) = .lt ∧
      (nestedInteger 9007199254740993).json.same (nestedInteger 9007199254740992).json = false := by
  obtain ⟨hwords, hdocuments⟩ := integers_compare_exactly
  refine ⟨?_, ?_, ?_⟩
  · rw [(hwords 18446744073709551615 18446744073709551614).1 gt]
    rfl
  · rw [(hwords (-9223372036854775808) 9223372036854775808).2]
    rfl
  · have hintegral (i : Int) : (nestedInteger i).json.Integral := integral_nested (.integer i)
    rw [← Bool.not_eq_true, hdocuments _ _ (hintegral _) (hintegral _), Json.oneDocument_iff_eq]
    simp [nestedInteger, nested, Json.ofInt]

end Edges

end Comparison

end JsonRules
