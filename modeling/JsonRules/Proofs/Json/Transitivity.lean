import JsonRules.Comparison
import JsonRules.Proofs.Double.Rounding
import JsonRules.Proofs.Json.Equality
import JsonRules.Json.Members

namespace JsonRules

namespace Number

/-- A relation of integers holds of two integers as it is, and of all other pairs if it holds of the
values of the doubles. -/
def Relates (r : Int → Int → Prop) : Number → Number → Prop
  | integer i, integer j => r i j
  | a, b => r a.toDouble.value b.toDouble.value

/-- A double stands between two integers that the relation does not hold of. -/
def Blurs (r : Int → Int → Prop) (a b c : Number) : Prop :=
  ∃ i d j, a = integer i ∧ b = double d ∧ c = integer j ∧ ¬r i j

variable {a b c : Number} {r : Int → Int → Prop}

theorem relates_double_left {d : Double} : Relates r (double d) b ↔ r d.value b.toDouble.value := by
  cases b <;> rfl

theorem relates_iff_of_compare {p : Ordering → Prop}
    (h : ∀ i j : Int, p (Ord.compare i j) ↔ r i j) : p (a.compare b) ↔ Relates r a b := by
  cases a with
  | double d =>
    rw [compare_double_left, relates_double_left]
    exact h _ _
  | integer i =>
    cases b with
    | double d =>
      rw [compare_double_right]
      exact h _ _
    | integer j =>
      rw [compare_integer]
      exact h i j

theorem compare_ne_gt_iff : a.compare b ≠ .gt ↔ Relates (· ≤ ·) a b :=
  relates_iff_of_compare (p := (· ≠ .gt)) fun _ _ => Int.compare_ne_gt

theorem compare_eq_iff : a.compare b = .eq ↔ Relates (· = ·) a b :=
  relates_iff_of_compare (p := (· = .eq)) fun _ _ => Int.compare_eq_eq

section Transitivity

variable (hvalue : ∀ {i j}, r i j → r (Double.ofInt i).value (Double.ofInt j).value)

include hvalue

theorem Relates.value (h : Relates r a b) : r a.toDouble.value b.toDouble.value := by
  cases a with
  | double d => exact relates_double_left.1 h
  | integer i =>
    cases b with
    | double d => exact h
    | integer j => exact hvalue h

theorem relates_trans_iff (htrans : ∀ {i j k}, r i j → r j k → r i k) (hab : Relates r a b)
    (hbc : Relates r b c) : Relates r a c ↔ ¬Blurs r a b c := by
  have hvalues := htrans (hab.value hvalue) (hbc.value hvalue)
  constructor
  · rintro hac ⟨i, d, j, rfl, rfl, rfl, hij⟩
    exact hij hac
  · intro hclear
    cases a with
    | double d => exact relates_double_left.2 hvalues
    | integer i =>
      cases c with
      | double d => exact hvalues
      | integer j =>
        cases b with
        | double d => exact of_not_not fun hij => hclear ⟨i, d, j, rfl, rfl, rfl, hij⟩
        | integer k => exact htrans hab hbc

end Transitivity

end Number

namespace Json

/-- At some place a double stands between two integers that differ. -/
inductive Blurred : Json → Json → Json → Prop
  | number {a b c : Number} : Number.Blurs (· = ·) a b c →
      Blurred (.number a) (.number b) (.number c)
  | item {xs ys zs : List Json} {n : Nat} {x y z : Json} : xs[n]? = some x → ys[n]? = some y →
      zs[n]? = some z → Blurred x y z → Blurred (.array xs) (.array ys) (.array zs)
  | member {xs ys zs : List (String × Json)} {key : String} {x y z : Json} : (key, x) ∈ xs →
      ys.lookup key = some y → zs.lookup key = some z → Blurred x y z →
      Blurred (.object xs) (.object ys) (.object zs)

inductive Mentions (i : Int) : Json → Prop
  | number : Mentions i (.number (.integer i))
  | item {xs : List Json} {x : Json} : x ∈ xs → Mentions i x → Mentions i (.array xs)
  | member {xs : List (String × Json)} {key : String} {x : Json} : (key, x) ∈ xs → Mentions i x →
      Mentions i (.object xs)

theorem not_same_of_blurred {a b c : Json} (h : Blurred a b c) : ¬a.same c = true := by
  induction h with
  | number hblurs =>
    obtain ⟨i, d, j, rfl, rfl, rfl, hij⟩ := hblurs
    rw [same, beq_iff_eq, Number.compare_eq_iff]
    exact hij
  | item hx _ hz _ ih =>
    intro hsame
    obtain ⟨_, ⟨⟩, hall⟩ := array_same_iff.1 hsame
    obtain ⟨hxlt, rfl⟩ := List.getElem?_eq_some_iff.1 hx
    obtain ⟨hzlt, rfl⟩ := List.getElem?_eq_some_iff.1 hz
    exact ih (hall.get hxlt hzlt)
  | member hx _ hz _ ih =>
    intro hsame
    obtain ⟨_, ⟨⟩, -, hall⟩ := object_same_iff.1 hsame
    obtain ⟨z, hlookup, hxz⟩ := hall _ hx
    cases hlookup.symm.trans hz
    exact ih hxz

theorem items_same_or_blurred {xs ys zs : List Json}
    (hitems : ∀ x ∈ xs, ∀ y z, x.same y = true → y.same z = true →
      x.same z = true ∨ Blurred x y z)
    (hxy : List.Forall₂ (fun x y => x.same y = true) xs ys)
    (hyz : List.Forall₂ (fun y z => y.same z = true) ys zs) :
    List.Forall₂ (fun x z => x.same z = true) xs zs ∨
      Blurred (.array xs) (.array ys) (.array zs) := by
  induction hxy generalizing zs with
  | nil =>
    cases hyz
    exact .inl .nil
  | @cons x y xs ys hfirst _ ih =>
    obtain _ | ⟨hnext, hrest⟩ := hyz
    obtain hsame | hblurred := hitems x List.mem_cons_self _ _ hfirst hnext
    · obtain hall | hlater := ih (fun v hv => hitems v (List.mem_cons_of_mem x hv)) hrest
      · exact .inl (.cons hsame hall)
      · obtain _ | ⟨hx, hy, hz, hplace⟩ := hlater
        exact .inr (.item (List.getElem?_cons_succ.trans hx) (List.getElem?_cons_succ.trans hy)
          (List.getElem?_cons_succ.trans hz) hplace)
    · exact .inr (.item (n := 0) rfl rfl rfl hblurred)

theorem members_same_or_blurred {xs ys zs : List (String × Json)}
    (hmembers : ∀ entry ∈ xs, ∀ y z, entry.2.same y = true → y.same z = true →
      entry.2.same z = true ∨ Blurred entry.2 y z)
    (hxy : ∀ entry ∈ xs, ∃ y, ys.lookup entry.1 = some y ∧ entry.2.same y = true)
    (hyz : ∀ entry ∈ ys, ∃ z, zs.lookup entry.1 = some z ∧ entry.2.same z = true) :
    (∀ entry ∈ xs, ∃ z, zs.lookup entry.1 = some z ∧ entry.2.same z = true) ∨
      Blurred (.object xs) (.object ys) (.object zs) := by
  by_cases hblurred : Blurred (.object xs) (.object ys) (.object zs)
  · exact .inr hblurred
  · refine .inl fun entry hentry => ?_
    obtain ⟨y, hy, hfirst⟩ := hxy entry hentry
    obtain ⟨z, hz, hnext⟩ := hyz (entry.1, y) (Members.mem_of_lookup _ _ hy)
    obtain hsame | hplace := hmembers entry hentry y z hfirst hnext
    · exact ⟨z, hz, hsame⟩
    · exact (hblurred (.member hentry hy hz hplace)).elim

theorem same_or_blurred {a b c : Json} (hab : a.same b = true) (hbc : b.same c = true) :
    a.same c = true ∨ Blurred a b c := by
  induction a generalizing b c with
  | null =>
    cases null_same_iff.1 hab
    exact .inl hbc
  | bool x =>
    cases bool_same_iff.1 hab
    exact .inl hbc
  | string s =>
    cases string_same_iff.1 hab
    exact .inl hbc
  | number m =>
    obtain ⟨n, rfl, hmn⟩ := number_same_iff.1 hab
    obtain ⟨k, rfl, hnk⟩ := number_same_iff.1 hbc
    have htrans := Number.relates_trans_iff (fun heq => congrArg (Double.ofInt · |>.value) heq)
      Eq.trans (Number.compare_eq_iff.1 hmn) (Number.compare_eq_iff.1 hnk)
    by_cases hblurs : Number.Blurs (· = ·) m n k
    · exact .inr (.number hblurs)
    · exact .inl (number_same_iff.2 ⟨k, rfl, Number.compare_eq_iff.2 (htrans.2 hblurs)⟩)
  | array xs ih =>
    obtain ⟨ys, rfl, hxy⟩ := array_same_iff.1 hab
    obtain ⟨zs, rfl, hyz⟩ := array_same_iff.1 hbc
    have hitems := items_same_or_blurred (fun x hx y z => ih x hx) hxy hyz
    exact hitems.imp_left fun hall => array_same_iff.2 ⟨zs, rfl, hall⟩
  | object xs ih =>
    obtain ⟨ys, rfl, hlength, hxy⟩ := object_same_iff.1 hab
    obtain ⟨zs, rfl, hlength', hyz⟩ := object_same_iff.1 hbc
    have hmembers := members_same_or_blurred (fun entry hentry y z => ih entry hentry) hxy hyz
    exact hmembers.imp_left fun hall =>
      object_same_iff.2 ⟨zs, rfl, hlength.trans hlength', hall⟩

/-- Integers of at most 53 bits keep their order as doubles, so no double blurs them. -/
theorem not_blurred_of_mentions {a b c : Json} (hab : a.same b = true) (hbc : b.same c = true)
    (ha : ∀ i, Mentions i a → i.natAbs ≤ Double.exactLimit)
    (hc : ∀ j, Mentions j c → j.natAbs ≤ Double.exactLimit) : ¬Blurred a b c := by
  intro h
  induction h with
  | number hblurs =>
    obtain ⟨i, d, j, rfl, rfl, rfl, hij⟩ := hblurs
    rw [same, beq_iff_eq, Number.compare_eq_iff] at hab hbc
    have hvalues : (Double.ofInt i).value = (Double.ofInt j).value := hab.trans hbc
    have hi := ha i .number
    have hj := hc j .number
    exact hij (Int.le_antisymm (Double.le_of_value_ofInt_le hi hj (Int.le_of_eq hvalues))
      (Double.le_of_value_ofInt_le hj hi (Int.le_of_eq hvalues.symm)))
  | item hx hy hz _ ih =>
    obtain ⟨_, ⟨⟩, hxy⟩ := array_same_iff.1 hab
    obtain ⟨_, ⟨⟩, hyz⟩ := array_same_iff.1 hbc
    obtain ⟨hxlt, rfl⟩ := List.getElem?_eq_some_iff.1 hx
    obtain ⟨hylt, rfl⟩ := List.getElem?_eq_some_iff.1 hy
    obtain ⟨hzlt, rfl⟩ := List.getElem?_eq_some_iff.1 hz
    exact ih (hxy.get hxlt hylt) (hyz.get hylt hzlt)
      (fun i hi => ha i (.item (List.getElem_mem hxlt) hi))
      (fun j hj => hc j (.item (List.getElem_mem hzlt) hj))
  | member hx hy hz _ ih =>
    obtain ⟨_, ⟨⟩, -, hxy⟩ := object_same_iff.1 hab
    obtain ⟨_, ⟨⟩, -, hyz⟩ := object_same_iff.1 hbc
    obtain ⟨y, hlookup, hsame⟩ := hxy _ hx
    cases hlookup.symm.trans hy
    obtain ⟨z, hlookup', hsame'⟩ := hyz _ (Members.mem_of_lookup _ _ hy)
    cases hlookup'.symm.trans hz
    exact ih hsame hsame' (fun i hi => ha i (.member hx hi))
      (fun j hj => hc j (.member (Members.mem_of_lookup _ _ hz) hj))

end Json

namespace Comparison

open Json

variable {a b c : Json}

theorem lte_apply_iff : lte.apply a b = some true ↔
    (∃ m n, a = .number m ∧ b = .number n ∧ Number.Relates (· ≤ ·) m n) ∨
      ∃ s t, a = .string s ∧ b = .string t ∧ s ≤ t := by
  rw [apply]
  cases a with
  | number m =>
    cases b with
    | number n => simp [compare?, ← Number.compare_ne_gt_iff]
    | _ => simp [compare?]
  | string s =>
    cases b with
    | string t =>
      have horder : ((if s < t then Ordering.lt else if s = t then .eq else .gt) != .gt) = true ↔
          s ≤ t := by
        split
        · next hlt => simp [Std.le_of_lt hlt]
        · next hnlt =>
          split
          · next heq => simp [heq]
          · next hne =>
            have hgt : t < s := Std.lt_of_le_of_ne (String.not_lt.1 hnlt) (Ne.symm hne)
            simp [hgt]
      constructor
      · intro h
        exact .inr ⟨s, t, rfl, rfl, horder.1 (Option.some.inj h)⟩
      · rintro (⟨_, _, ⟨⟩, -⟩ | ⟨_, _, ⟨⟩, ⟨⟩, hle⟩)
        exact congrArg some (horder.2 hle)
    | _ => simp [compare?]
  | _ => simp [compare?]

def Inverted (a b c : Json) : Prop :=
  ∃ l m n, a = .number l ∧ b = .number m ∧ c = .number n ∧ Number.Blurs (· ≤ ·) l m n

theorem lte_trans_iff (hab : lte.apply a b = some true) (hbc : lte.apply b c = some true) :
    lte.apply a c = some true ↔ ¬Inverted a b c := by
  obtain ⟨l, m, rfl, rfl, hlm⟩ | ⟨s, t, rfl, rfl, hst⟩ := lte_apply_iff.1 hab
  · obtain ⟨_, n, ⟨⟩, rfl, hmn⟩ | ⟨_, _, ⟨⟩, -⟩ := lte_apply_iff.1 hbc
    have htrans := Number.relates_trans_iff (r := (· ≤ ·)) Double.value_ofInt_mono Int.le_trans
      hlm hmn
    constructor
    · rintro hac ⟨_, _, _, ⟨⟩, ⟨⟩, ⟨⟩, hblurs⟩
      obtain ⟨_, _, ⟨⟩, ⟨⟩, hln⟩ | ⟨_, _, ⟨⟩, -⟩ := lte_apply_iff.1 hac
      exact htrans.1 hln hblurs
    · intro hclear
      have hln := htrans.2 fun hblurs => hclear ⟨l, m, n, rfl, rfl, rfl, hblurs⟩
      exact lte_apply_iff.2 (.inl ⟨l, n, rfl, rfl, hln⟩)
  · obtain ⟨_, _, ⟨⟩, -⟩ | ⟨_, u, ⟨⟩, rfl, htu⟩ := lte_apply_iff.1 hbc
    have hac := lte_apply_iff.2 (.inr ⟨s, u, rfl, rfl, String.le_trans hst htu⟩)
    exact ⟨fun _ ⟨_, _, _, hnumber, _⟩ => (nomatch hnumber), fun _ => hac⟩

theorem not_inverted_of_mentions (hab : lte.apply a b = some true)
    (hbc : lte.apply b c = some true) (ha : ∀ i, Mentions i a → i.natAbs ≤ Double.exactLimit)
    (hc : ∀ j, Mentions j c → j.natAbs ≤ Double.exactLimit) : ¬Inverted a b c := by
  rintro ⟨_, _, _, rfl, rfl, rfl, i, d, j, rfl, rfl, rfl, hij⟩
  obtain ⟨_, _, ⟨⟩, ⟨⟩, hid⟩ | ⟨_, _, ⟨⟩, -⟩ := lte_apply_iff.1 hab
  obtain ⟨_, _, ⟨⟩, ⟨⟩, hdj⟩ | ⟨_, _, ⟨⟩, -⟩ := lte_apply_iff.1 hbc
  have hvalues : (Double.ofInt i).value ≤ (Double.ofInt j).value := Int.le_trans hid hdj
  exact hij (Double.le_of_value_ofInt_le (ha i .number) (hc j .number) hvalues)

/-- Equality and order by value are transitive, except where a double stands between two integers
that it cannot tell apart, which takes an integer of more than 53 bits. -/
theorem transitive_unless_blurred (a b c : Json) :
    (a.same b = true → b.same c = true → (a.same c = true ↔ ¬Blurred a b c)) ∧
    (lte.apply a b = some true → lte.apply b c = some true →
      (lte.apply a c = some true ↔ ¬Inverted a b c)) ∧
    ((∀ i, Mentions i a → i.natAbs ≤ Double.exactLimit) →
      (∀ j, Mentions j c → j.natAbs ≤ Double.exactLimit) →
        (a.same b = true → b.same c = true → a.same c = true) ∧
        (lte.apply a b = some true → lte.apply b c = some true → lte.apply a c = some true)) := by
  refine ⟨fun hab hbc => ?_, lte_trans_iff, fun ha hc => ⟨fun hab hbc => ?_, fun hab hbc => ?_⟩⟩
  · exact ⟨fun hac hblurred => not_same_of_blurred hblurred hac,
      fun hclear => (same_or_blurred hab hbc).resolve_right hclear⟩
  · exact (same_or_blurred hab hbc).resolve_right (not_blurred_of_mentions hab hbc ha hc)
  · exact (lte_trans_iff hab hbc).2 (not_inverted_of_mentions hab hbc ha hc)

section Edge

/-- The double `2 ^ 53`, next to the first integer that is none. -/
def edge : Json := .number (.double (Double.ofInt 9007199254740992))

theorem not_transitive_at_edge :
    (Json.ofInt 9007199254740993).same edge = true ∧
    edge.same (Json.ofInt 9007199254740992) = true ∧
    (Json.ofInt 9007199254740993).same (Json.ofInt 9007199254740992) = false ∧
    lte.apply (Json.ofInt 9007199254740993) edge = some true ∧
    lte.apply edge (Json.ofInt 9007199254740992) = some true ∧
    lte.apply (Json.ofInt 9007199254740993) (Json.ofInt 9007199254740992) = some false := by
  decide +kernel

def nested (v : Json) : Json := .object [("n", .array [.null, v])]

/-- The place where the edge blurs two integers may lie deep in a document. -/
theorem blurred_nested_edge :
    (nested (Json.ofInt 9007199254740993)).same (nested edge) = true ∧
    (nested edge).same (nested (Json.ofInt 9007199254740992)) = true ∧
    Blurred (nested (Json.ofInt 9007199254740993)) (nested edge)
      (nested (Json.ofInt 9007199254740992)) := by
  have hab : (nested (Json.ofInt 9007199254740993)).same (nested edge) = true := by
    decide +kernel
  have hbc : (nested edge).same (nested (Json.ofInt 9007199254740992)) = true := by
    decide +kernel
  have hac : ¬(nested (Json.ofInt 9007199254740993)).same
      (nested (Json.ofInt 9007199254740992)) = true := by
    decide +kernel
  obtain ⟨hsame, -, -⟩ := transitive_unless_blurred (nested (Json.ofInt 9007199254740993))
    (nested edge) (nested (Json.ofInt 9007199254740992))
  exact ⟨hab, hbc, of_not_not fun hclear => hac ((hsame hab hbc).2 hclear)⟩

end Edge

end Comparison

end JsonRules
