import JsonRules.Rule.Basic

namespace JsonRules

def Connective.Takes : Connective → Nat → Prop
  | not, count => count = 1
  | _, count => count ≠ 0

namespace Rule

/-- A property of all rules may be shown for a group from what holds of its children. -/
@[elab_as_elim, induction_eliminator]
theorem induction {motive : Rule → Prop} (check : ∀ c, motive (.check c))
    (group : ∀ connective children, (∀ r ∈ children, motive r) →
      motive (.group connective children))
    (r : Rule) : motive r :=
  match r with
  | .check c => check c
  | .group connective children =>
    group connective children fun r _ => induction check group r

theorem checksOf_eq_flatMap (rules : List Rule) : checksOf rules = rules.flatMap checks := by
  induction rules with
  | nil => rfl
  | cons r rest ih => rw [checksOf, ih, List.flatMap_cons]

theorem mem_checks_group {connective : Connective} {children : List Rule} {c : Check} :
    c ∈ (group connective children).checks ↔ ∃ r ∈ children, c ∈ r.checks := by
  rw [checks, checksOf_eq_flatMap, List.mem_flatMap]

theorem length_checksOf {rules : List Rule} (h : ∀ r ∈ rules, r.checks.length = r.checkCount) :
    (checksOf rules).length = checkCountOf rules := by
  induction rules with
  | nil => rfl
  | cons r rest ih =>
    rw [List.forall_mem_cons] at h
    rw [checksOf, checkCountOf, List.length_append, h.1, ih h.2]

theorem length_checks (r : Rule) : r.checks.length = r.checkCount := by
  induction r with
  | check c => rfl
  | group connective children ih => rw [checks, checkCount, length_checksOf ih]

/-- Every group of the rule has a number of children that its connective takes. -/
inductive Proper : Rule → Prop
  | check (c : Check) : Proper (.check c)
  | group {connective : Connective} {children : List Rule} :
      connective.Takes children.length → (∀ r ∈ children, Proper r) →
        Proper (.group connective children)

section Proper

variable {connective : Connective} {children : List Rule}

theorem Proper.takes (h : Proper (.group connective children)) :
    connective.Takes children.length := by
  cases h with
  | group htakes _ => exact htakes

theorem Proper.of_mem {r : Rule} (h : Proper (.group connective children)) (hr : r ∈ children) :
    r.Proper := by
  cases h with
  | group _ hproper => exact hproper r hr

theorem Proper.children_ne_nil (h : Proper (.group connective children)) : children ≠ [] := by
  rintro rfl
  have htakes := h.takes
  cases connective <;> simp [Connective.Takes] at htakes

end Proper

/-- No group is empty, so there is a check to be found in every rule. -/
theorem Proper.exists_check {r : Rule} (h : r.Proper) : ∃ c, c ∈ r.checks := by
  induction r with
  | check c => exact ⟨c, List.mem_singleton_self c⟩
  | group connective children ih =>
    obtain ⟨first, hfirst⟩ := List.exists_mem_of_ne_nil children h.children_ne_nil
    obtain ⟨c, hc⟩ := ih first hfirst (h.of_mem hfirst)
    exact ⟨c, mem_checks_group.2 ⟨first, hfirst, hc⟩⟩

end Rule

end JsonRules
