import JsonRules.Proofs.Outcome.Formula
import JsonRules.Proofs.Rule.WellFormed

namespace JsonRules

/-- The connective is the operator of some part of a rule document. -/
def Json.Writes (document : Json) (connective : Connective) : Prop :=
  ∃ path node text, document.ruleNode? path = some node ∧
    node.get? "operator" = some (.string text) ∧ connective.IsNamed text

namespace Rule

inductive Uses (connective : Connective) : Rule → Prop
  | root (children : List Rule) : Uses connective (.group connective children)
  | child {outer : Connective} {children : List Rule} {r : Rule} :
      r ∈ children → Uses connective r → Uses connective (.group outer children)

section Nesting

variable {connective : Connective} {document : Json} {r : Rule}

theorem writes_of_uses (hnests : Nests document r) (h : r.Uses connective) :
    document.Writes connective := by
  induction h generalizing document with
  | root children =>
    cases hnests with
    | group hoperator hnamed _ => exact ⟨[], document, _, rfl, hoperator, hnamed⟩
  | @child outer children r hr _ ih =>
    cases hnests with
    | group _ _ hchildren =>
      obtain ⟨i, hi, rfl⟩ := List.getElem_of_mem hr
      have hlt : i < document.ruleChildren.length := hchildren.length_eq ▸ hi
      obtain ⟨path, node, text, hnode, hwritten⟩ := ih (hchildren.get hlt hi)
      refine ⟨i :: path, node, text, ?_, hwritten⟩
      rw [Json.ruleNode?, List.getElem?_eq_getElem hlt, Option.bind_some]
      exact hnode

/-- The connectives of a rule are the operators of its document. -/
theorem writes_iff_uses (hnests : Nests document r) :
    document.Writes connective ↔ r.Uses connective := by
  refine ⟨?_, writes_of_uses hnests⟩
  rintro ⟨path, node, text, hnode, hoperator, hnamed⟩
  induction path generalizing document r with
  | nil =>
    cases hnode
    cases hnests with
    | check hnone => cases hnone.symm.trans hoperator
    | group hoperator' hnamed' _ =>
      cases hoperator.symm.trans hoperator'
      cases hnamed.unique hnamed'
      exact .root _
  | cons i path ih =>
    rw [Json.ruleNode?] at hnode
    obtain ⟨child, hchild, hnode⟩ := Option.bind_eq_some_iff.1 hnode
    obtain ⟨hlt, rfl⟩ := List.getElem?_eq_some_iff.1 hchild
    cases hnests with
    | check hnone => simp [Json.ruleChildren_of_check hnone] at hlt
    | group _ _ hchildren =>
      have hi := hchildren.length_eq ▸ hlt
      exact .child (List.getElem_mem hi) (ih (hchildren.get hlt hi) hnode)

end Nesting

section Formulas

variable {p q : Check → Prop} {r : Rule}

/-- A formula without negations stays true if more checks pass. -/
theorem Holds.mono (h : r.Holds p) (hnot : ¬ r.Uses .not) (hpq : ∀ c ∈ r.checks, p c → q c) :
    r.Holds q := by
  induction r with
  | check c =>
    rw [Holds] at h ⊢
    exact hpq c (List.mem_singleton_self c) h
  | group connective children ih =>
    have hchild (r : Rule) (hr : r ∈ children) (hholds : r.Holds p) : r.Holds q := by
      refine ih r hr hholds (fun huses => hnot (.child hr huses)) fun c hc => ?_
      exact hpq c (mem_checks_group.2 ⟨r, hr, hc⟩)
    cases connective with
    | all =>
      rw [Holds] at h ⊢
      exact fun r hr => hchild r hr (h r hr)
    | any =>
      rw [Holds] at h ⊢
      obtain ⟨r, hr, hholds⟩ := h
      exact ⟨r, hr, hchild r hr hholds⟩
    | not => exact absurd (.root children) hnot

/-- A formula without negations is true if all its checks pass, as no group of it is empty. -/
theorem holds_of_forall (hproper : r.Proper) (hnot : ¬ r.Uses .not) (h : ∀ c ∈ r.checks, p c) :
    r.Holds p := by
  induction r with
  | check c =>
    rw [Holds]
    exact h c (List.mem_singleton_self c)
  | group connective children ih =>
    have hchild (r : Rule) (hr : r ∈ children) : r.Holds p := by
      refine ih r hr (hproper.of_mem hr) (fun huses => hnot (.child hr huses)) fun c hc => ?_
      exact h c (mem_checks_group.2 ⟨r, hr, hc⟩)
    cases connective with
    | all =>
      rw [Holds]
      exact hchild
    | any =>
      rw [Holds]
      obtain ⟨first, hfirst⟩ := List.exists_mem_of_ne_nil children hproper.children_ne_nil
      exact ⟨first, hfirst, hchild first hfirst⟩
    | not => exact absurd (.root children) hnot

/-- A formula of conjunctions is true exactly if all its checks pass. -/
theorem holds_iff_forall (hall : ∀ connective, r.Uses connective → connective = .all) :
    r.Holds p ↔ ∀ c ∈ r.checks, p c := by
  induction r with
  | check c => simp [Holds, checks]
  | group connective children ih =>
    cases hall connective (.root children)
    have hchild (r : Rule) (hr : r ∈ children) : r.Holds p ↔ ∀ c ∈ r.checks, p c :=
      ih r hr fun connective huses => hall connective (.child hr huses)
    rw [Holds, forall₂_congr hchild]
    simp only [mem_checks_group, forall_exists_index, and_imp]
    exact ⟨fun h c r hr hc => h r hr c hc, fun h r hr c hc => h c r hr hc⟩

end Formulas

end Rule

end JsonRules
