import JsonRules.Proofs.Engine.Cancellation
import JsonRules.Json.Members
import JsonRules.Proofs.Report.Marks
import JsonRules.Proofs.Rule.NamedCommands

namespace JsonRules

def lastRegistered (calls : List (String × Predicate)) (name : String) : Option Predicate :=
  calls.reverse.lookup name

theorem lastRegistered_cons (call : String × Predicate) (calls : List (String × Predicate))
    (name : String) :
    lastRegistered (call :: calls) name =
      (lastRegistered calls name).or (if name = call.1 then some call.2 else none) := by
  rw [lastRegistered, List.reverse_cons, List.lookup_append, Members.lookup_cons_eq_ite,
    List.lookup_nil, lastRegistered]

theorem lastRegistered_eq_none {calls : List (String × Predicate)} {name : String}
    (h : ∀ call ∈ calls, call.1 ≠ name) : lastRegistered calls name = none := by
  rw [lastRegistered, List.lookup_eq_none_iff]
  intro call hcall
  exact bne_iff_ne.2 (h call (List.mem_reverse.1 hcall)).symm

namespace Registry

def registerAll (registry : Registry) (calls : List (String × Predicate)) : Registry :=
  calls.foldl (fun r call => r.register call.1 call.2) registry

theorem find?_register (registry : Registry) (name other : String) (predicate : Predicate) :
    (registry.register name predicate).find? other =
      if other = name then some (.custom predicate) else registry.find? other := by
  rw [find?, register, Members.lookup_cons_eq_ite, find?]

/-- The last command under a name is found, and what was there before if none was registered. -/
theorem find?_registerAll (registry : Registry) (calls : List (String × Predicate))
    (name : String) :
    (registry.registerAll calls).find? name =
      ((lastRegistered calls name).map .custom).or (registry.find? name) := by
  induction calls generalizing registry with
  | nil => rfl
  | cons call calls ih =>
    have hstep : registry.registerAll (call :: calls) =
        (registry.register call.1 call.2).registerAll calls := rfl
    rw [hstep, ih, find?_register, lastRegistered_cons]
    cases lastRegistered calls name with
    | some predicate => rfl
    | none => split <;> rfl

section Agreement

variable {registry : Registry} {calls kept : List (String × Predicate)} {document : Json}

theorem agreeOn_of_lastRegistered
    (h : ∀ name, document.NamesCommand name →
      lastRegistered calls name = lastRegistered kept name) :
    (registry.registerAll calls).AgreeOn (registry.registerAll kept) document := by
  intro name hname
  rw [find?_registerAll, find?_registerAll, h name hname]

theorem agreeOn_registerAll (h : ∀ call ∈ calls, ¬ document.NamesCommand call.1) :
    registry.AgreeOn (registry.registerAll calls) document := by
  intro name hname
  have hunused : lastRegistered calls name = none :=
    lastRegistered_eq_none fun call hcall heq => h call hcall (heq ▸ hname)
  rw [find?_registerAll, hunused]
  rfl

end Agreement

end Registry

/-- The checks under the name of a command of the host run what was registered last. -/
theorem Rule.test_eq_lastRegistered {registry : Registry} {calls : List (String × Predicate)}
    {document : Json} {rule : Rule}
    (hread : ofDocument (registry.registerAll calls) document = .ok rule) {c : Check}
    (hc : c ∈ rule.checks) {predicate : Predicate}
    (hlast : lastRegistered calls c.command = some predicate) :
    c.test = .custom predicate c.arguments := by
  refine test_eq_custom hread hc ?_
  rw [Registry.find?_registerAll, hlast]
  rfl

namespace Engine

def withRegistry (e : Engine) (registry : Registry) : Engine := { e with registry := registry }

/-- Two engines do the same with a rule document: they read it alike and give the same answers to
all validations against it, in whatever way these end, and against any rule that was read before. -/
structure SameOn (e other : Engine) (document : Json) : Prop where
  readRule : e.readRule document = other.readRule document
  validate : ∀ target explain,
    e.validate (some document) target explain = other.validate (some document) target explain
  validateUntil : ∀ {σ : Type} (watch : Watch σ) target explain s,
    e.validateUntil watch (some document) target explain s =
      other.validateUntil watch (some document) target explain s
  validateRule : ∀ rule target explain,
    e.validateRule rule target explain = other.validateRule rule target explain
  settle : ∀ rule outcome explain,
    e.settle rule outcome explain = other.settle rule outcome explain

/-- The registry is looked at only to read the document. -/
theorem sameOn_withRegistry (e : Engine) {registry other : Registry} {document : Json}
    (h : registry.AgreeOn other document) :
    (e.withRegistry registry).SameOn (e.withRegistry other) document := by
  have hread : (e.withRegistry registry).readRule document =
      (e.withRegistry other).readRule document := Rule.ofJson_congr [] h
  have hkept {kept : Json} (hrules : (some document).filter (!isEmptyDocument ·) = some kept) :
      (e.withRegistry registry).readRule kept = (e.withRegistry other).readRule kept := by
    obtain ⟨hsame, -⟩ := Option.filter_eq_some_iff.1 hrules
    cases hsame
    exact hread
  refine ⟨hread, fun target explain => ?_, fun watch target explain s => ?_, fun _ _ _ => rfl,
    fun _ _ _ => rfl⟩
  · rw [validate, validate]
    rcases hrules : (some document).filter (!isEmptyDocument ·) with _ | kept
    · rfl
    · simp only [hkept hrules]
      rfl
  · rw [validateUntil, validateUntil]
    rcases hrules : (some document).filter (!isEmptyDocument ·) with _ | kept
    · rfl
    · simp only [hkept hrules]
      rfl

/-- Commands under other names than those in a document make no difference to it, and of several
under one name only the last does: reading a document gives the same rule, or the same error, under
any two registries that have the same commands under its names. -/
theorem registration_is_local (e : Engine) (document : Json) :
    (∀ registry other : Registry, registry.AgreeOn other document →
      Rule.ofDocument registry document = Rule.ofDocument other document ∧
        (e.withRegistry registry).SameOn (e.withRegistry other) document) ∧
    (∀ calls, (∀ call ∈ calls, ¬ document.NamesCommand call.1) →
      e.SameOn (e.withRegistry (e.registry.registerAll calls)) document) ∧
    (∀ calls kept, (∀ name, document.NamesCommand name →
        lastRegistered calls name = lastRegistered kept name) →
      (e.withRegistry (e.registry.registerAll calls)).SameOn
        (e.withRegistry (e.registry.registerAll kept)) document) ∧
    ∀ calls rule, Rule.ofDocument (e.registry.registerAll calls) document = .ok rule →
      ∀ c ∈ rule.checks, ∀ predicate, lastRegistered calls c.command = some predicate →
        c.test = .custom predicate c.arguments := by
  refine ⟨fun registry other hagree => ⟨?_, ?_⟩, fun calls hcalls => ?_, fun calls kept hsame => ?_,
    fun calls rule hread c hc predicate hlast => ?_⟩
  · exact Rule.ofJson_congr [] hagree
  · exact e.sameOn_withRegistry hagree
  · exact e.sameOn_withRegistry (Registry.agreeOn_registerAll hcalls)
  · exact e.sameOn_withRegistry (Registry.agreeOn_of_lastRegistered hsame)
  · exact Rule.test_eq_lastRegistered hread hc hlast

section Shadowed

open Report (never neverAge ofDocument_neverAge)

/-- A built-in command replaced twice, and another one that the document does not use. -/
def shadowing : List (String × Predicate) :=
  [("required", trip), ("range", never), ("required", never)]

def presenceDocument : Json := RuleHead.checkDocument "required" "$.age"

theorem eq_required_of_namesCommand {name : String} (h : presenceDocument.NamesCommand name) :
    name = "required" := by
  rcases Json.namesCommand_iff.1 h with hown | ⟨child, hchild, -⟩
  · cases hown
    rfl
  · rw [Json.ruleChildren_of_check rfl] at hchild
    cases hchild

/-- The command that was registered last is the one that the check runs, with the built-in commands
beside it and without them. -/
theorem readRule_shadowing :
    Rule.ofDocument (Registry.empty.register "required" never) presenceDocument =
        .ok (.check neverAge) ∧
      Engine.default.SameOn
        (Engine.default.withRegistry (Registry.builtins.registerAll [("range", never)]))
        presenceDocument ∧
      (Engine.default.withRegistry (Registry.builtins.registerAll shadowing)).readRule
        presenceDocument = .ok (.check neverAge) ∧
      neverAge.test = .custom never .null := by
  obtain ⟨hregistry, hunused, hlast, htest⟩ :=
    registration_is_local Engine.default presenceDocument
  have hread : (Engine.default.withRegistry (Registry.builtins.registerAll shadowing)).readRule
      presenceDocument = .ok (.check neverAge) := by
    refine (hlast shadowing [("required", never)] fun name hname => ?_).readRule.trans
      ofDocument_neverAge
    rw [eq_required_of_namesCommand hname]
    rfl
  refine ⟨?_, hunused [("range", never)] fun call hcall hname => ?_, hread, ?_⟩
  · refine (hregistry _ (Registry.builtins.register "required" never) fun name hname => ?_).1.trans
      ofDocument_neverAge
    rw [eq_required_of_namesCommand hname]
    rfl
  · cases List.mem_singleton.1 hcall
    exact absurd (eq_required_of_namesCommand hname) (by decide)
  · exact htest shadowing _ hread neverAge (List.mem_singleton_self _) never rfl

end Shadowed

end Engine

end JsonRules
