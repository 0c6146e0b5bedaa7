import JsonRules.Report
import JsonRules.Rule.Reader

namespace JsonRules

structure Engine where
  registry : Registry
  policy : PresencePolicy
  /-- The number of children from which a group may be evaluated in parallel, which changes no
  answer. -/
  parallelThreshold : Nat

inductive ValidationError where
  | rule (e : RuleError)
  | cancelled (evaluated total : Nat)
deriving DecidableEq, Repr

def ValidationError.message : ValidationError → String
  | rule e => e.message
  | cancelled evaluated total =>
    "validation cancelled after " ++ toString evaluated ++ " of " ++ toString total ++ " checks"

namespace Engine

def defaultThreshold : Nat := 8

/-- A threshold that is asked for is at least two. -/
def clampThreshold (threshold : Nat) : Nat := max threshold 2

def default : Engine := ⟨.builtins, .reportAll, defaultThreshold⟩

/-- A rule document that says nothing: null, or an object without members. -/
def isEmptyDocument : Json → Bool
  | .null => true
  | .object [] => true
  | _ => false

def readRule (e : Engine) (rules : Json) : Except RuleError Rule :=
  Rule.ofDocument e.registry rules

def report (e : Engine) (rule : Rule) (outcome : Outcome) (explain : Bool) : Report :=
  Report.ofOutcome e.policy rule outcome explain

def validateRule (e : Engine) (rule : Rule) (target : Json) (explain : Bool) : Report :=
  e.report rule (rule.evaluate target explain) explain

/-- Validates a document against a rule document; without rules every document is valid. -/
def validate (e : Engine) (rules : Option Json) (target : Json) (explain : Bool) :
    Except RuleError Report :=
  match rules.filter (!isEmptyDocument ·) with
  | none => .ok (.trivial explain)
  | some document => (e.readRule document).map fun rule => e.validateRule rule target explain

/-- Validates under a watch. If some check was not evaluated there is no report. -/
def validateUntil {σ : Type} (e : Engine) (watch : Watch σ) (rules : Option Json) (target : Json)
    (explain : Bool) (s : σ) : Except ValidationError Report × σ :=
  match rules.filter (!isEmptyDocument ·) with
  | none => (.ok (.trivial explain), s)
  | some document =>
    match e.readRule document with
    | .error error => (.error (.rule error), s)
    | .ok rule =>
      let (outcome, s) := rule.run watch target explain s
      if outcome.isComplete then (.ok (e.report rule outcome explain), s)
      else
        let checks := outcome.checks
        (.error (.cancelled (checks.countP (·.evaluated)) checks.length), s)

end Engine

end JsonRules
