import JsonRules.Proofs.Rule.Head

namespace JsonRules.Rule

/-- A well-formed rule document: a check, or a group of well-formed documents. -/
inductive WellFormed (registry : Registry) : Json → Prop
  | check {document : Json} {c : Check} :
      RuleHead.Spelled registry document (.check c) → WellFormed registry document
  | group {document : Json} {connective : Connective} {children : List Json} :
      RuleHead.Spelled registry document (.group connective children) →
        (∀ child ∈ children, WellFormed registry child) → WellFormed registry document

/-- The rule is nested as the document is, with the children of groups in the same order. -/
inductive Nests : Json → Rule → Prop
  | check {document : Json} {c : Check} :
      document.get? "operator" = none → Nests document (.check c)
  | group {document : Json} {text : String} {connective : Connective} {children : List Rule} :
      document.get? "operator" = some (.string text) → connective.IsNamed text →
        List.Forall₂ Nests document.ruleChildren children →
        Nests document (.group connective children)

variable {registry : Registry}

/-- Induction over the reading of a document, with the children of a group in step. -/
@[elab_as_elim]
theorem Reads.induction {motive : Json → Rule → Prop}
    (check : ∀ {document c}, RuleHead.Spelled registry document (.check c) →
      motive document (.check c))
    (group : ∀ {document connective documents children},
      RuleHead.Spelled registry document (.group connective documents) →
        List.Forall₂ motive documents children → motive document (.group connective children))
    {document : Json} {r : Rule} (h : Reads registry document r) : motive document r := by
  induction r generalizing document with
  | check c =>
    cases h with
    | check hhead => exact check (RuleHead.ofJson_eq_ok_iff.1 hhead)
  | group connective children ih =>
    cases h with
    | group hhead hchildren =>
      refine group (RuleHead.ofJson_eq_ok_iff.1 hhead) ?_
      have hpairs := (List.forall₂_and_left _ _).2 ⟨ih, hchildren.flip⟩
      exact (hpairs.imp fun r document hpair => hpair.1 hpair.2).flip

theorem wellFormed_of_reads {document : Json} {r : Rule} (h : Reads registry document r) :
    WellFormed registry document := by
  refine h.induction .check fun hspelled hchildren => .group hspelled fun child hchild => ?_
  obtain ⟨i, hi, rfl⟩ := List.getElem_of_mem hchild
  exact hchildren.get hi (hchildren.length_eq ▸ hi)

theorem exists_forall₂_reads {documents : List Json}
    (h : ∀ document ∈ documents, ∃ r, Reads registry document r) :
    ∃ rules, List.Forall₂ (Reads registry) documents rules := by
  induction documents with
  | nil => exact ⟨[], .nil⟩
  | cons document rest ih =>
    rw [List.forall_mem_cons] at h
    obtain ⟨r, hr⟩ := h.1
    obtain ⟨rules, hrules⟩ := ih h.2
    exact ⟨r :: rules, .cons hr hrules⟩

theorem exists_reads_of_wellFormed {document : Json} (h : WellFormed registry document) :
    ∃ r, Reads registry document r := by
  induction h with
  | check hspelled => exact ⟨_, .check (RuleHead.ofJson_eq_ok_iff.2 hspelled)⟩
  | group hspelled _ ih =>
    obtain ⟨rules, hrules⟩ := exists_forall₂_reads ih
    exact ⟨_, .group (RuleHead.ofJson_eq_ok_iff.2 hspelled) hrules⟩

theorem nests_of_reads {document : Json} {r : Rule} (h : Reads registry document r) :
    Nests document r := by
  refine h.induction (fun hspelled => ?_) fun hspelled hchildren => ?_
  · cases hspelled with
    | check hoperator _ => exact .check hoperator
  · rw [← hspelled.ruleChildren_eq] at hchildren
    cases hspelled with
    | group hoperator _ _ hnamed _ _ => exact .group hoperator hnamed hchildren

/-- The checks of a rule are read from the objects without an operator, one by one, as each of them
is read when it stands alone. -/
theorem reads_checkObjects {document : Json} {r : Rule} (h : Reads registry document r) :
    List.Forall₂ (fun object c => Reads registry object (.check c)) document.checkObjects
      r.checks := by
  refine h.induction (fun hspelled => ?_) fun hspelled hchildren => ?_
  · have hread := Reads.check (RuleHead.ofJson_eq_ok_iff.2 hspelled)
    cases hspelled with
    | check hoperator _ =>
      rw [Json.checkObjects_of_check hoperator]
      exact .cons hread .nil
  · rw [← hspelled.ruleChildren_eq] at hchildren
    cases hspelled with
    | group hoperator _ _ _ _ _ =>
      rw [Json.checkObjects_of_group hoperator, checks, checksOf_eq_flatMap]
      exact List.rel_flatMap hchildren fun _ _ hchecks => hchecks

theorem isWritten_of_reads {object : Json} {c : Check} (h : Reads registry object (.check c)) :
    c.IsWritten registry object := by
  cases h with
  | check hhead =>
    cases RuleHead.ofJson_eq_ok_iff.1 hhead with
    | check _ hwritten => exact hwritten

/-- The checks of a rule are written by the objects without an operator, one by one. -/
theorem isWritten_checks_of_reads {document : Json} {r : Rule} (h : Reads registry document r) :
    List.Forall₂ (Check.IsWritten registry) document.checkObjects r.checks :=
  (reads_checkObjects h).imp fun _ _ hread => isWritten_of_reads hread

theorem exists_isWritten_of_mem {document : Json} {r : Rule} {c : Check}
    (h : Reads registry document r) (hc : c ∈ r.checks) :
    ∃ object, c.IsWritten registry object := by
  have hwritten := isWritten_checks_of_reads h
  obtain ⟨i, hi, rfl⟩ := List.getElem_of_mem hc
  exact ⟨_, hwritten.get (hwritten.length_eq ▸ hi) hi⟩

/-- Whatever name a command of the host has, the checks under this name run it. -/
theorem test_eq_custom {predicate : Predicate} {document : Json} {rule : Rule}
    (hread : ofDocument registry document = .ok rule) {c : Check} (hc : c ∈ rule.checks)
    (hfind : registry.find? c.command = some (.custom predicate)) :
    c.test = .custom predicate c.arguments := by
  obtain ⟨object, hwritten⟩ := exists_isWritten_of_mem (reads_of_ofJson hread) hc
  have hbinds := hwritten.test
  generalize c.test = t at hbinds ⊢
  cases hbinds with
  | builtin hbuiltin _ => rw [hfind] at hbuiltin; cases hbuiltin
  | custom hcustom => rw [hfind] at hcustom; cases hcustom; rfl

theorem Proper.checkCount_pos {r : Rule} (h : r.Proper) : 1 ≤ r.checkCount := by
  obtain ⟨c, hc⟩ := h.exists_check
  rw [← r.length_checks]
  exact List.length_pos_of_mem hc

/-- A document is read if it is well formed and refused otherwise. The rule that is read has the
nesting of the document, at least one check, and in every check what its object writes. -/
theorem ofDocument_accepts_well_formed (registry : Registry) (document : Json) :
    ((∃ r, ofDocument registry document = .ok r) ↔ WellFormed registry document) ∧
      ∀ r, ofDocument registry document = .ok r →
        Nests document r ∧ 1 ≤ r.checkCount ∧
          List.Forall₂ (Check.IsWritten registry) document.checkObjects r.checks := by
  refine ⟨⟨?_, ?_⟩, ?_⟩
  · rintro ⟨r, hr⟩
    exact wellFormed_of_reads (reads_of_ofJson hr)
  · intro h
    obtain ⟨r, hr⟩ := exists_reads_of_wellFormed h
    exact ⟨r, ofJson_of_reads hr⟩
  · intro r hr
    have hreads := reads_of_ofJson hr
    exact ⟨nests_of_reads hreads, hreads.proper.checkCount_pos, isWritten_checks_of_reads hreads⟩

section Minor

def ageObject : Json :=
  .object [("arguments", .object [("min", .ofNat 18)]), ("command", .string "range"),
    ("comment", .string "adult"), ("selector", .string "$.age")]

def ageCheck : Check where
  selector := ⟨"$.age", [.key "age"]⟩
  command := "range"
  arguments := .object [("min", .ofNat 18)]
  description := "range@$.age"
  comment := "adult"
  test := .range (some (.integer 18)) none false
  document := ageObject

theorem isWritten_ageCheck : ageCheck.IsWritten .builtins ageObject where
  selector := rfl
  denotes := Selector.denotes_iff.2 (by decide +kernel)
  command := rfl
  arguments := rfl
  test := .builtin (b := .range) rfl
    (.range (.given rfl) (.missing rfl) ⟨by simp, by simp⟩ (.missing rfl))
  description := ⟨none, .missing rfl, rfl⟩
  comment := ⟨some "adult", .given rfl, rfl⟩
  document := rfl

theorem reads_ageObject : Reads .builtins ageObject (.check ageCheck) :=
  .check (RuleHead.ofJson_eq_ok_iff.2 (.check rfl isWritten_ageCheck))

def minorDocument : Json :=
  RuleHead.groupDocument "Not" [RuleHead.groupDocument "or" [ageObject, ageObject]]

def minorRule : Rule := .group .not [.group .any [.check ageCheck, .check ageCheck]]

theorem ofDocument_minorDocument : ofDocument .builtins minorDocument = .ok minorRule := by
  have hnot : Connective.ofText? "Not" = some .not := by decide +kernel
  have hor : Connective.ofText? "or" = some .any := by decide +kernel
  refine ofJson_of_reads (.group (RuleHead.ofJson_groupDocument hnot rfl) (.cons ?_ .nil))
  apply Reads.group (RuleHead.ofJson_groupDocument hor rfl)
  exact .cons reads_ageObject (.cons reads_ageObject .nil)

/-- The document is well formed, and both of its checks are written by the object that stands in
their place. -/
theorem wellFormed_minorDocument :
    ofDocument .builtins minorDocument = .ok minorRule ∧ WellFormed .builtins minorDocument ∧
      Nests minorDocument minorRule ∧ 1 ≤ minorRule.checkCount ∧
      List.Forall₂ (Check.IsWritten .builtins) minorDocument.checkObjects [ageCheck, ageCheck] := by
  obtain ⟨hwell, hread⟩ := ofDocument_accepts_well_formed .builtins minorDocument
  exact ⟨ofDocument_minorDocument, hwell.1 ⟨_, ofDocument_minorDocument⟩,
    hread _ ofDocument_minorDocument⟩

end Minor

end JsonRules.Rule
