import JsonRules.Proofs.Engine.Validation
import JsonRules.Proofs.Outcome.Schedule
import JsonRules.Proofs.Outcome.Trace

namespace JsonRules.Engine

/-- The answer to a validation whose evaluation ended in an outcome. -/
def settle (e : Engine) (rule : Rule) (outcome : Outcome) (explain : Bool) :
    Except ValidationError Report :=
  if outcome.isComplete then .ok (e.report rule outcome explain)
  else .error (.cancelled (outcome.checks.countP (·.evaluated)) outcome.checks.length)

variable {e : Engine} {document : Json} {rule : Rule}

theorem validateUntil_eq_settle {σ : Type} (h : e.readRule document = .ok rule)
    (watch : Watch σ) (target : Json) (explain : Bool) (s : σ) :
    e.validateUntil watch (some document) target explain s =
      (e.settle rule (rule.run watch target explain s).1 explain,
        (rule.run watch target explain s).2) := by
  rw [validateUntil, filter_isEmptyDocument h]
  simp only [h, settle]
  split <;> rfl

/-- Without rules and with a faulty document the watch is never asked. -/
theorem validateUntil_cases {σ : Type} (e : Engine) (watch : Watch σ) (rules : Option Json)
    (s : σ) :
    (∃ document rule, rules = some document ∧ e.readRule document = .ok rule) ∨
      ∀ target explain, e.validateUntil watch rules target explain s =
        ((e.validate rules target explain).mapError .rule, s) := by
  rcases hfilter : rules.filter (!isEmptyDocument ·) with _ | document
  · refine .inr fun target explain => ?_
    rw [validateUntil, validate, hfilter]
    rfl
  · obtain ⟨rfl, -⟩ := Option.filter_eq_some_iff.1 hfilter
    rcases hread : e.readRule document with error | rule
    · refine .inr fun target explain => ?_
      rw [validateUntil, validate, hfilter]
      simp only [hread]
      rfl
    · exact .inl ⟨document, rule, rfl, hread⟩

/-- There is a report if all checks were evaluated, and then it is the one that there is without a
watch. -/
theorem settle_of_yields {target : Json} {explain : Bool} {outcome : Outcome}
    (h : rule.Yields target explain outcome) (hproper : rule.Proper) :
    e.settle rule outcome explain =
      if outcome.checks.countP (·.evaluated) = rule.checkCount
        then .ok (e.validateRule rule target explain)
        else .error (.cancelled (outcome.checks.countP (·.evaluated)) rule.checkCount) := by
  rw [settle]
  split
  · next hcomplete =>
    rw [if_pos (h.isComplete_iff.1 hcomplete), h.eq_evaluate hproper hcomplete, validateRule]
  · next hgap =>
    rw [if_neg (fun hall => hgap (h.isComplete_iff.2 hall)), h.length_checks]

theorem validateUntil_of_readRule {σ : Type} (h : e.readRule document = .ok rule)
    (watch : Watch σ) (target : Json) (explain : Bool) (s : σ) :
    e.validateUntil watch (some document) target explain s =
      (if rule.testedCount watch target s = rule.checkCount
        then .ok (e.validateRule rule target explain)
        else .error (.cancelled (rule.testedCount watch target s) rule.checkCount),
      (rule.events watch target [] s).2) := by
  have hproper := Rule.proper_of_ofDocument h
  rw [validateUntil_eq_settle h, settle_of_yields (Rule.yields_run target explain watch rule s)
    hproper, Rule.testedCount_eq watch target explain, Rule.snd_events watch target explain]

/-- A validation under a watch either gives what a validation without one gives, or it is given up
with the number of the checks that were tested, which are not all. The same holds if the children of
groups are evaluated in another order or in parallel. -/
theorem validateUntil_eq_validate_or_cancelled {σ : Type} (e : Engine) (watch : Watch σ)
    (rules : Option Json) (target : Json) (explain : Bool) (s : σ) :
    ((e.validateUntil watch rules target explain s).1 =
        (e.validate rules target explain).mapError .rule ∨
      ∃ document rule, rules = some document ∧ e.readRule document = .ok rule ∧
        (e.validateUntil watch rules target explain s).1 =
          .error (.cancelled (rule.testedCount watch target s) rule.checkCount) ∧
        rule.testedCount watch target s < rule.checkCount) ∧
    ∀ document rule, rules = some document → e.readRule document = .ok rule →
      e.validate rules target explain = .ok (e.validateRule rule target explain) ∧
      (rule.testedCount watch target s = rule.checkCount ↔
        (e.validateUntil watch rules target explain s).1 =
          .ok (e.validateRule rule target explain)) ∧
      e.validateUntil watch rules target explain s =
        (e.settle rule (rule.run watch target explain s).1 explain,
          (rule.events watch target [] s).2) ∧
      ∀ n outcome, Task.Steps true target explain (.waiting rule) n (.ended outcome) →
        n = rule.checkCount ∧ e.settle rule outcome explain =
            .ok (e.validateRule rule target explain) ∨
          n < rule.checkCount ∧ e.settle rule outcome explain =
            .error (.cancelled n rule.checkCount) := by
  constructor
  · obtain ⟨document, rule, rfl, hread⟩ | hunasked := e.validateUntil_cases watch rules s
    · rw [validateUntil_of_readRule hread, validate_of_readRule hread]
      by_cases hall : rule.testedCount watch target s = rule.checkCount
      · exact .inl (if_pos hall)
      · have hlt := Nat.lt_of_le_of_ne (rule.testedCount_le watch target s) hall
        exact .inr ⟨document, rule, rfl, hread, if_neg hall, hlt⟩
    · rw [hunasked]
      exact .inl rfl
  · rintro document rule rfl hread
    refine ⟨validate_of_readRule hread target explain, ?_, ?_, ?_⟩
    · rw [validateUntil_of_readRule hread]
      refine ⟨fun hall => if_pos hall, fun hok => ?_⟩
      by_contra hgap
      rw [if_neg hgap] at hok
      cases hok
    · rw [validateUntil_eq_settle hread, Rule.snd_events watch target explain]
    · intro n outcome hsteps
      have hcount := hsteps.countP_evaluated
      have hle := hsteps.yields.countP_evaluated_le
      rw [settle_of_yields hsteps.yields (Rule.proper_of_ofDocument hread), hcount]
      rw [hcount] at hle
      by_cases hall : n = rule.checkCount
      · exact .inl ⟨hall, if_pos hall⟩
      · exact .inr ⟨Nat.lt_of_le_of_ne hle hall, if_neg hall⟩

section Trip

def trip : Predicate := fun _ _ => ⟨true, ["t"]⟩

def tripEngine : Engine :=
  { Engine.default with registry := Registry.builtins.register "trip" trip }

/-- Two groups of one check each; the first check cancels the token, so the second is left out. -/
def tripDocument : Json :=
  RuleHead.groupDocument "AND"
    [RuleHead.groupDocument "OR" [RuleHead.checkDocument "trip" "$"],
      RuleHead.groupDocument "OR" [RuleHead.checkDocument "absent" "$"]]

def tripRule : Rule :=
  .group .all [.group .any [.check (RuleHead.plainCheck "trip" "$" [] (.custom trip .null))],
    .group .any [.check (RuleHead.plainCheck "absent" "$" [] .absent)]]

theorem readRule_tripDocument : tripEngine.readRule tripDocument = .ok tripRule := by
  have hroot : Selector.ofText "$" = .ok ⟨"$", []⟩ := by decide +kernel
  have hor {children : List Json} (h : children.length ≠ 0) :
      RuleHead.ofJson tripEngine.registry (RuleHead.groupDocument "OR" children) =
        .ok (.group .any children) :=
    RuleHead.ofJson_groupDocument (by decide +kernel) (if_neg h)
  refine Rule.ofJson_of_reads
    (.group (RuleHead.ofJson_groupDocument (by decide +kernel) rfl) (.cons ?_ (.cons ?_ .nil)))
  · exact .group (hor (by decide)) (.cons (.check (RuleHead.ofJson_checkDocument hroot rfl)) .nil)
  · exact .group (hor (by decide)) (.cons (.check (RuleHead.ofJson_checkDocument hroot rfl)) .nil)

/-- The token is cancelled between the two groups, so one of two checks was tested; and this is one
of the ways that a parallel evaluation may take. -/
theorem validateUntil_tripDocument :
    tripEngine.readRule tripDocument = .ok tripRule ∧
      (tripEngine.validateUntil (Tokens.watch (some ⟨0, false⟩)) (some tripDocument) .null false
        (Tokens.empty.create "t" false)).1 = .error (.cancelled 1 2) ∧
      ∃ outcome, Task.Steps true .null false (.waiting tripRule) 1 (.ended outcome) ∧
        tripEngine.settle tripRule outcome false = .error (.cancelled 1 2) := by
  have htested : tripRule.testedCount (Tokens.watch (some ⟨0, false⟩)) .null
      (Tokens.empty.create "t" false) = 1 := by decide
  have hcount : tripRule.checkCount = 2 := by decide
  obtain ⟨hanswer, hrule⟩ := validateUntil_eq_validate_or_cancelled tripEngine
    (Tokens.watch (some ⟨0, false⟩)) (some tripDocument) .null false (Tokens.empty.create "t" false)
  obtain ⟨hvalidate, hall, -, hparallel⟩ := hrule tripDocument tripRule rfl readRule_tripDocument
  refine ⟨readRule_tripDocument, ?_, ?_⟩
  · rcases hanswer with hsame | ⟨document, rule, hdocument, hread, hcancelled, -⟩
    · rw [hvalidate] at hsame
      have := hall.2 hsame
      omega
    · cases hdocument
      cases readRule_tripDocument.symm.trans hread
      rw [hcancelled, htested, hcount]
  · obtain ⟨n, hsteps⟩ := Task.exists_steps_run (Tokens.watch (some ⟨0, false⟩)) tripRule
      (Tokens.empty.create "t" false)
    have hn : n = 1 := by
      rw [← hsteps.countP_evaluated, ← Rule.testedCount_eq, htested]
    subst hn
    refine ⟨_, hsteps, ?_⟩
    obtain ⟨hcomplete, -⟩ | ⟨-, hcancelled⟩ := hparallel 1 _ hsteps
    · omega
    · rw [hcancelled, hcount]

end Trip

end JsonRules.Engine
