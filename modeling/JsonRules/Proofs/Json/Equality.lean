import JsonRules.Json.Order
import Mathlib.Data.List.Forall2

namespace JsonRules.Json

/-- A property of all documents may be shown for arrays and objects from what holds of the values in
them. -/
@[elab_as_elim, induction_eliminator]
theorem induction {motive : Json → Prop} (null : motive .null) (bool : ∀ b, motive (.bool b))
    (number : ∀ n, motive (.number n)) (string : ∀ s, motive (.string s))
    (array : ∀ items, (∀ v ∈ items, motive v) → motive (.array items))
    (object : ∀ members, (∀ entry ∈ members, motive entry.2) → motive (.object members))
    (v : Json) : motive v :=
  match v with
  | .null => null
  | .bool b => bool b
  | .number n => number n
  | .string s => string s
  | .array items => array items fun v _ => induction null bool number string array object v
  | .object members => object members fun entry hentry =>
    have : sizeOf entry.2 < sizeOf entry := by cases entry; simp +arith
    have : sizeOf entry < sizeOf members := List.sizeOf_lt_of_mem hentry
    induction null bool number string array object entry.2

theorem sameItems_iff {xs ys : List Json} :
    sameItems xs ys = true ↔ List.Forall₂ (fun x y => x.same y = true) xs ys := by
  induction xs generalizing ys with
  | nil =>
    cases ys with
    | nil => exact ⟨fun _ => .nil, fun _ => rfl⟩
    | cons y ys => exact ⟨nofun, nofun⟩
  | cons x xs ih =>
    cases ys with
    | nil => exact ⟨nofun, nofun⟩
    | cons y ys => rw [sameItems, Bool.and_eq_true, ih, List.forall₂_cons]

/-- The members on the left, each with its partner. -/
theorem sameMembers_iff {xs ys : List (String × Json)} :
    sameMembers xs ys = true ↔
      ∀ entry ∈ xs, ∃ y, ys.lookup entry.1 = some y ∧ entry.2.same y = true := by
  induction xs with
  | nil => simp [sameMembers]
  | cons entry rest ih =>
    obtain ⟨key, x⟩ := entry
    rw [sameMembers, Bool.and_eq_true, ih, List.forall_mem_cons]
    refine and_congr_left fun _ => ?_
    rcases ys.lookup key with _ | y
    · simp
    · simp

section Kinds

variable {v : Json}

theorem null_same_iff : null.same v = true ↔ v = null := by
  cases v <;> simp [same]

theorem bool_same_iff {b : Bool} : (bool b).same v = true ↔ v = bool b := by
  cases v <;> simp [same, eq_comm (a := b)]

theorem string_same_iff {s : String} : (string s).same v = true ↔ v = string s := by
  cases v <;> simp [same, eq_comm (a := s)]

theorem number_same_iff {m : Number} :
    (number m).same v = true ↔ ∃ n, v = number n ∧ m.compare n = .eq := by
  cases v <;> simp [same]

theorem array_same_iff {xs : List Json} : (array xs).same v = true ↔
    ∃ ys, v = array ys ∧ List.Forall₂ (fun x y => x.same y = true) xs ys := by
  cases v <;> simp [same, sameItems_iff]

theorem object_same_iff {xs : List (String × Json)} : (object xs).same v = true ↔
    ∃ ys, v = object ys ∧ xs.length = ys.length ∧
      ∀ entry ∈ xs, ∃ y, ys.lookup entry.1 = some y ∧ entry.2.same y = true := by
  cases v <;> simp [same, sameMembers_iff]

end Kinds

end JsonRules.Json
