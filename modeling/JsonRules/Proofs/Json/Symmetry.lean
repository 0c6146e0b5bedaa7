import JsonRules.Proofs.Json.Equality
import JsonRules.Json.Document
import Mathlib.Data.List.Nodup
import Mathlib.Data.List.Perm.Subperm

namespace JsonRules

theorem forall₂_imp_of_mem {α β : Type} {R S : α → β → Prop} {xs : List α} {ys : List β}
    (himp : ∀ x ∈ xs, ∀ y ∈ ys, R x y → S x y) (h : List.Forall₂ R xs ys) :
    List.Forall₂ S xs ys := by
  rw [List.forall₂_iff_get] at h ⊢
  refine ⟨h.1, ?_⟩
  intro i hx hy
  exact himp _ (List.get_mem xs ⟨i, hx⟩) _ (List.get_mem ys ⟨i, hy⟩) (h.2 i hx hy)

theorem eq_of_forall₂_of_mem {α : Type} {R : α → α → Prop} {xs ys : List α}
    (himp : ∀ x ∈ xs, ∀ y ∈ ys, R x y → x = y) (h : List.Forall₂ R xs ys) : xs = ys := by
  have heq := forall₂_imp_of_mem (S := Eq) himp h
  rwa [List.forall₂_eq_eq_eq] at heq

namespace SortedMembers

section Partners

variable {α β : Type} {xs : SortedMembers α} {ys : SortedMembers β}

theorem lookup_of_mem (xs : SortedMembers α) {key : String} {x : α} (h : (key, x) ∈ xs.members) :
    xs.members.lookup key = some x := by
  obtain ⟨w, hw⟩ := Members.exists_lookup_of_mem_keys key xs.members (List.mem_map_of_mem h)
  have hpair : (key, w) = (key, x) :=
    List.inj_on_of_nodup_map xs.sorted.nodup_keys (Members.mem_of_lookup key w hw) h rfl
  rw [hw, (Prod.mk.inj hpair).2]

/-- There is no room for a key on the right that is not on the left. -/
theorem keys_eq_of_subset (hlength : xs.members.length = ys.members.length)
    (h : xs.members.keys ⊆ ys.members.keys) : xs.members.keys = ys.members.keys := by
  have hcount : ys.members.keys.length ≤ xs.members.keys.length := by
    simp only [Members.keys, List.length_map, hlength, Nat.le_refl]
  have hperm := (List.subperm_of_subset xs.sorted.nodup_keys h).perm_of_length_le hcount
  apply hperm.eq_of_pairwise _ xs.sorted ys.sorted
  intro k k' _ _ hlt hgt
  exact absurd (String.lt_trans hlt hgt) (String.lt_irrefl k)

/-- If there are equally many members and each one on the left has a partner, then the members
stand side by side. -/
theorem forall₂_iff_partners {R : α → β → Prop} (xs : SortedMembers α) (ys : SortedMembers β) :
    List.Forall₂ (fun p q => p.1 = q.1 ∧ R p.2 q.2) xs.members ys.members ↔
      xs.members.length = ys.members.length ∧
        ∀ p ∈ xs.members, ∃ y, ys.members.lookup p.1 = some y ∧ R p.2 y := by
  rw [List.forall₂_iff_get]
  apply and_congr_right
  intro hlength
  constructor
  · intro h p hp
    obtain ⟨i, hi, rfl⟩ := List.getElem_of_mem hp
    have hi' : i < ys.members.length := hlength ▸ hi
    obtain ⟨hkey, hrel⟩ := h i hi hi'
    refine ⟨ys.members[i].2, ?_, hrel⟩
    rw [show xs.members[i].1 = ys.members[i].1 from hkey]
    exact ys.lookup_of_mem (List.getElem_mem hi')
  · intro h i hi hi'
    have hsubset : xs.members.keys ⊆ ys.members.keys := by
      intro key hkey
      obtain ⟨p, hp, rfl⟩ := List.mem_map.1 hkey
      obtain ⟨y, hy, -⟩ := h p hp
      rw [Members.mem_keys_iff_lookup, hy, Option.isSome_some]
    have hkeys := keys_eq_of_subset hlength hsubset
    have hkey : xs.members[i].1 = ys.members[i].1 := by
      have hat := congrArg (fun keys : List String => keys[i]?) hkeys
      simpa [Members.keys, hi, hi'] using hat
    obtain ⟨y, hy, hrel⟩ := h xs.members[i] (List.getElem_mem hi)
    have hpartner : ys.members.lookup ys.members[i].1 = some ys.members[i].2 :=
      ys.lookup_of_mem (List.getElem_mem hi')
    rw [hkey, hpartner] at hy
    cases hy
    exact ⟨hkey, hrel⟩

theorem forall₂_of_lookup {R : α → β → Prop} (xs : SortedMembers α) (ys : SortedMembers β)
    (h : ∀ key, Option.Rel R (xs.members.lookup key) (ys.members.lookup key)) :
    List.Forall₂ (fun p q => p.1 = q.1 ∧ R p.2 q.2) xs.members ys.members := by
  have hmem (key : String) : key ∈ xs.members.keys ↔ key ∈ ys.members.keys := by
    have hrel := h key
    rw [Members.mem_keys_iff_lookup, Members.mem_keys_iff_lookup]
    generalize xs.members.lookup key = x, ys.members.lookup key = y at hrel ⊢
    cases hrel <;> rfl
  have hperm := (List.perm_ext_iff_of_nodup xs.sorted.nodup_keys ys.sorted.nodup_keys).2 hmem
  have hlength : xs.members.length = ys.members.length := by
    simpa only [Members.keys, List.length_map] using hperm.length_eq
  refine (forall₂_iff_partners xs ys).2 ⟨hlength, fun p hp => ?_⟩
  have hrel := h p.1
  rw [xs.lookup_of_mem hp] at hrel
  generalize ys.members.lookup p.1 = found at hrel ⊢
  cases hrel with
  | some hR => exact ⟨_, rfl, hR⟩

theorem members_eq_of_lookup (xs zs : SortedMembers α)
    (hlength : xs.members.length = zs.members.length)
    (h : ∀ p ∈ xs.members, zs.members.lookup p.1 = some p.2) : xs.members = zs.members := by
  have hall := (forall₂_iff_partners (R := Eq) xs zs).2 ⟨hlength, fun p hp => ⟨p.2, h p hp, rfl⟩⟩
  apply eq_of_forall₂_of_mem _ hall
  intro p _ q _ hpq
  exact Prod.ext hpq.1 hpq.2

end Partners

end SortedMembers

namespace Number

theorem compare_swap (a b : Number) : b.compare a = (a.compare b).swap := by
  cases a with
  | double d =>
    rw [compare_double_left, compare_double_right]
    exact (Int.compare_swap _ _).symm
  | integer i =>
    cases b with
    | double d =>
      rw [compare_double_left, compare_double_right]
      exact (Int.compare_swap _ _).symm
    | integer j =>
      rw [compare_integer, compare_integer]
      exact (Int.compare_swap _ _).symm

theorem compare_self (a : Number) : a.compare a = .eq := by
  cases a with
  | double d =>
    rw [compare_double_left]
    exact Int.compare_eq_eq.2 rfl
  | integer i =>
    rw [compare_integer]
    exact Int.compare_eq_eq.2 rfl

end Number

namespace Json

/-- Objects in order are compared member by member, although the keys of one of them only are looked
up in the other. -/
theorem object_same_iff_forall₂ (xs ys : SortedMembers Json) :
    (object xs.members).same (object ys.members) = true ↔
      List.Forall₂ (fun p q => p.1 = q.1 ∧ p.2.same q.2 = true) xs.members ys.members := by
  have hpartners := SortedMembers.forall₂_iff_partners (R := fun x y => x.same y = true) xs ys
  rw [hpartners, object_same_iff]
  simp only [object.injEq, exists_eq_left']

end Json

namespace Document

open Json

theorem same_refl (v : Document) : v.json.same v.json = true := by
  obtain ⟨v, h⟩ := v
  induction v with
  | null => rfl
  | bool b => exact bool_same_iff.2 rfl
  | number n => exact number_same_iff.2 ⟨n, rfl, n.compare_self⟩
  | string s => exact string_same_iff.2 rfl
  | array items ih =>
    apply array_same_iff.2
    refine ⟨items, rfl, List.forall₂_same.2 ?_⟩
    intro v hv
    exact ih v hv (h.of_mem_items hv)
  | object members ih =>
    apply (object_same_iff_forall₂ ⟨members, h.1⟩ ⟨members, h.1⟩).2
    apply List.forall₂_same.2
    intro entry hentry
    exact ⟨rfl, ih entry hentry (h.of_mem_members hentry)⟩

theorem same_symm {a b : Document} (h : a.json.same b.json = true) : b.json.same a.json = true := by
  obtain ⟨a, ha⟩ := a
  obtain ⟨b, hb⟩ := b
  dsimp only at h ⊢
  induction a generalizing b with
  | null =>
    rw [null_same_iff.1 h]
    rfl
  | bool x =>
    rw [bool_same_iff.1 h]
    exact bool_same_iff.2 rfl
  | string s =>
    rw [string_same_iff.1 h]
    exact string_same_iff.2 rfl
  | number m =>
    obtain ⟨n, rfl, hmn⟩ := number_same_iff.1 h
    apply number_same_iff.2
    exact ⟨m, rfl, by rw [Number.compare_swap m n, hmn, Ordering.swap_eq]⟩
  | array xs ih =>
    obtain ⟨ys, rfl, hall⟩ := array_same_iff.1 h
    apply array_same_iff.2
    refine ⟨xs, rfl, List.Forall₂.flip (forall₂_imp_of_mem ?_ hall)⟩
    intro x hx y hy hxy
    exact ih x hx (ha.of_mem_items hx) y (hb.of_mem_items hy) hxy
  | object xs ih =>
    obtain ⟨ys, rfl, -⟩ := object_same_iff.1 h
    have hall := (object_same_iff_forall₂ ⟨xs, ha.1⟩ ⟨ys, hb.1⟩).1 h
    apply (object_same_iff_forall₂ ⟨ys, hb.1⟩ ⟨xs, ha.1⟩).2
    refine List.Forall₂.flip (forall₂_imp_of_mem ?_ hall)
    intro p hp q hq hpq
    exact ⟨hpq.1.symm, ih p hp (ha.of_mem_members hp) q.2 (hb.of_mem_members hq) hpq.2⟩

theorem same_comm (a b : Document) : a.json.same b.json = b.json.same a.json :=
  Bool.eq_iff_iff.2 ⟨same_symm, same_symm⟩

end Document

end JsonRules
