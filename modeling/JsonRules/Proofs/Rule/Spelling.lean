import JsonRules.Proofs.Outcome.Tree
import JsonRules.Proofs.Rule.Head

namespace JsonRules

/-- Two rule documents that are the same but for the spelling of the paths of some checks. A check
whose path is spelled in another way has a description of its own. -/
inductive Json.Respelled : Json → Json → Prop
  | same (document : Json) : Respelled document document
  | check {document other : Json} {text spelling description : String} {path : List Segment} :
      document.get? "selector" = some (.string text) →
      other.get? "selector" = some (.string spelling) →
      Selector.ofText text = .ok ⟨text, path⟩ → Selector.ofText spelling = .ok ⟨spelling, path⟩ →
      document.get? "description" = some (.string description) →
      (∀ key, key ≠ "selector" → other.get? key = document.get? key) →
      Respelled document other
  | group {document other operator : Json} {children others : List Json} :
      document.get? "operator" = some operator →
      document.get? "children" = some (.array children) →
      other.get? "children" = some (.array others) →
      (∀ key, key ≠ "children" → other.get? key = document.get? key) →
      List.Forall₂ Respelled children others → Respelled document other

structure Check.Respelled (c other : Check) : Prop where
  segments : other.selector.segments = c.selector.segments
  command : other.command = c.command
  arguments : other.arguments = c.arguments
  description : other.description = c.description
  comment : other.comment = c.comment
  test : other.test = c.test

theorem Check.Respelled.refl (c : Check) : c.Respelled c := ⟨rfl, rfl, rfl, rfl, rfl, rfl⟩

inductive RuleHead.Respelled : RuleHead → RuleHead → Prop
  | check {c other : Check} : c.Respelled other → Respelled (.check c) (.check other)
  | group {connective : Connective} {children others : List Json} :
      List.Forall₂ Json.Respelled children others →
        Respelled (.group connective children) (.group connective others)

/-- Two rules of one shape with the same checks but for the spelling of paths. -/
inductive Rule.Respelled : Rule → Rule → Prop
  | check {c other : Check} : c.Respelled other → Respelled (.check c) (.check other)
  | group {connective : Connective} {children others : List Rule} :
      List.Forall₂ Respelled children others →
        Respelled (.group connective children) (.group connective others)

namespace RuleHead

variable {registry : Registry}

theorem Respelled.refl (head : RuleHead) : head.Respelled head := by
  cases head with
  | check c => exact .check (.refl c)
  | group connective children =>
    exact .group (List.forall₂_same.2 fun document _ => .same document)

section Members

variable {members others : Members Json} {key : String}

theorem requiredString_congr (h : others.lookup key = members.lookup key) :
    requiredString members key = requiredString others key := by
  rw [requiredString, requiredString, h]

theorem optionalString_congr (h : others.lookup key = members.lookup key) :
    optionalString members key = optionalString others key := by
  rw [optionalString, optionalString, h]

theorem contains_congr (h : others.lookup key = members.lookup key) :
    Members.contains members key = Members.contains others key := by
  rw [Members.contains, Members.contains, h]

/-- The spelling of the path is kept beside its meaning, and nothing else is made from it. -/
theorem readCheck_agree {text spelling description : String} {path : List Segment}
    (htext : members.lookup "selector" = some (.string text))
    (hspelling : others.lookup "selector" = some (.string spelling))
    (hpath : Selector.ofText text = .ok ⟨text, path⟩)
    (hsame : Selector.ofText spelling = .ok ⟨spelling, path⟩)
    (hdescription : members.lookup "description" = some (.string description))
    (hothers : ∀ key, key ≠ "selector" → others.lookup key = members.lookup key) :
    (readCheck registry members).Agree Check.Respelled (readCheck registry others) := by
  have hdescribed : optionalString members "description" = .ok (some description) :=
    optionalString_eq_ok_iff.2 (.given hdescription)
  have hredescribed : optionalString others "description" = .ok (some description) := by
    rw [← optionalString_congr (hothers "description" (by decide)), hdescribed]
  refine .bind_ok (requiredString_eq_ok_iff.2 htext) (requiredString_eq_ok_iff.2 hspelling) ?_
  refine .bind_eq (requiredString_congr (hothers "command" (by decide))) fun command => ?_
  refine .bind_ok (readSelector_of_ofText hpath) (readSelector_of_ofText hsame) ?_
  rw [hothers "arguments" (by decide)]
  refine .bind_eq rfl fun test => ?_
  refine .bind_ok hdescribed hredescribed ?_
  refine .bind_eq (optionalString_congr (hothers "comment" (by decide))) fun comment => ?_
  exact .ok ⟨rfl, rfl, rfl, rfl, rfl, rfl⟩

/-- A group is known by its connective and the number of its children. -/
theorem readGroup_agree {children spelled : List Json}
    (hoperator : others.lookup "operator" = members.lookup "operator")
    (hchildren : members.lookup "children" = some (.array children))
    (hspelled : others.lookup "children" = some (.array spelled))
    (hall : List.Forall₂ Json.Respelled children spelled) :
    (readGroup members).Agree Respelled (readGroup others) := by
  have hconnective : readConnective members = readConnective others := by
    rw [readConnective, readConnective, requiredString_congr hoperator]
  rw [readGroup, readGroup, readChildren_eq_ok_iff.2 hchildren, readChildren_eq_ok_iff.2 hspelled,
    hconnective]
  cases readConnective others with
  | error fault => exact .error fault
  | ok connective =>
    dsimp only
    rw [hall.length_eq]
    exact (Except.Agree.refl (fun _ => Eq.refl _) _).map fun _ _ _ => .group hall

end Members

/-- A document says the same by itself however the paths in it are spelled. -/
theorem ofJson_agree (registry : Registry) {document other : Json} (h : document.Respelled other) :
    (ofJson registry document).Agree Respelled (ofJson registry other) := by
  cases h with
  | same => exact .refl Respelled.refl _
  | check htext hspelling hpath hsame hdescription hothers =>
    obtain ⟨members, rfl⟩ := Json.exists_object_of_get? htext
    obtain ⟨others, rfl⟩ := Json.exists_object_of_get? hspelling
    have hread : (readCheck registry members).Agree _ (readCheck registry others) :=
      readCheck_agree htext hspelling hpath hsame hdescription hothers
    simp only [ofJson, contains_of_lookup htext, contains_of_lookup hspelling, Bool.or_true,
      contains_congr (hothers "operator" (by decide))]
    cases Members.contains others "operator" with
    | true => exact .error _
    | false => exact hread.map fun _ _ => .check
  | group hoperator hchildren hspelled hothers hall =>
    obtain ⟨members, rfl⟩ := Json.exists_object_of_get? hchildren
    obtain ⟨others, rfl⟩ := Json.exists_object_of_get? hspelled
    have hread : (readGroup members).Agree _ (readGroup others) :=
      readGroup_agree (hothers "operator" (by decide)) hchildren hspelled hall
    have hoperator' : others.lookup "operator" = _ :=
      (hothers "operator" (by decide)).trans hoperator
    have hcommand : others.lookup "command" = members.lookup "command" := hothers _ (by decide)
    have hselector : others.lookup "selector" = members.lookup "selector" := hothers _ (by decide)
    simp only [ofJson, contains_of_lookup hoperator, contains_of_lookup hoperator',
      contains_congr hcommand, contains_congr hselector]
    split
    · exact .error _
    · exact hread
    · next h _ => cases h
    · next h _ => cases h

end RuleHead

namespace Rule

variable {registry : Registry}

mutual

/-- Reading a document in another spelling gives the same rule up to the spelling, or the same
error. -/
theorem ofJson_agree (path : List Nat) {document other : Json} (h : document.Respelled other) :
    (ofJson registry path document).Agree Respelled (ofJson registry path other) := by
  have hagree := RuleHead.ofJson_agree registry h
  generalize hhead : RuleHead.ofJson registry document = head at hagree
  generalize hother : RuleHead.ofJson registry other = otherHead at hagree
  cases hagree with
  | error fault =>
    rw [ofJson_of_error hhead, ofJson_of_error hother]
    exact .error _
  | ok hheads =>
    cases hheads with
    | check hchecks =>
      rw [ofJson_of_check hhead, ofJson_of_check hother]
      exact .ok (.check hchecks)
    | group hchildren =>
      have := RuleHead.sizeOf_children_lt hhead
      rw [ofJson_of_group hhead, ofJson_of_group hother]
      exact (ofChildren_agree path 0 hchildren).map fun _ _ => .group
termination_by sizeOf document

theorem ofChildren_agree (path : List Nat) (i : Nat) {documents others : List Json}
    (h : List.Forall₂ Json.Respelled documents others) :
    (ofChildren registry path i documents).Agree (List.Forall₂ Respelled)
      (ofChildren registry path i others) := by
  cases h with
  | nil =>
    rw [ofChildren]
    exact .ok .nil
  | @cons document other rest otherRest hfirst hrest =>
    have hagree := ofJson_agree (path ++ [i]) hfirst
    rw [ofChildren, ofChildren]
    generalize ofJson registry (path ++ [i]) document = first at hagree
    generalize ofJson registry (path ++ [i]) other = otherFirst at hagree
    cases hagree with
    | error e => exact .error e
    | ok hrules => exact (ofChildren_agree path (i + 1) hrest).map fun _ _ => .cons hrules
termination_by sizeOf documents

end

/-- The checks of a rule in another spelling are its checks, one by one. -/
theorem Respelled.checks {r s : Rule} (h : r.Respelled s) :
    List.Forall₂ Check.Respelled r.checks s.checks := by
  induction r generalizing s with
  | check c =>
    cases h with
    | check hcheck => exact .cons hcheck .nil
  | group connective children ih =>
    cases h with
    | group hchildren =>
      rw [Rule.checks, Rule.checks, checksOf_eq_flatMap, checksOf_eq_flatMap]
      have hpairs := (List.forall₂_and_left _ _).2 ⟨ih, hchildren⟩
      exact List.rel_flatMap hpairs fun r s hpair => hpair.1 hpair.2

end Rule

/-- A check finds the same values however its path is spelled, and tests them in the same way. -/
theorem Check.Respelled.passes_eq {c other : Check} (h : c.Respelled other) (target : Json) :
    other.passes target = c.passes target := by
  rw [Check.passes, Check.passes, h.test, Selector.locate, Selector.locate, h.segments]

theorem Rule.Respelled.valid_evaluate {r s : Rule} (h : r.Respelled s) (target : Json)
    (explain : Bool) :
    (s.evaluate target explain).valid = (r.evaluate target explain).valid := by
  induction r generalizing s with
  | check c =>
    cases h with
    | check hcheck => exact hcheck.passes_eq target
  | group connective children ih =>
    cases h with
    | @group _ _ others hchildren =>
      have hvalid : others.map (Outcome.valid ∘ evaluate target explain) =
          children.map (Outcome.valid ∘ evaluate target explain) := by
        have hpairs := (List.forall₂_and_left _ _).2 ⟨ih, hchildren⟩
        rw [← List.forall₂_eq_eq_eq, List.forall₂_map_left_iff, List.forall₂_map_right_iff]
        exact (hpairs.imp fun r s hpair => hpair.1 hpair.2).flip
      rw [evaluate, evaluate, evaluateAll_eq_map, evaluateAll_eq_map, Outcome.valid, Outcome.valid,
        List.map_map, List.map_map, hvalid]

end JsonRules
