import JsonRules.Cancellation
import JsonRules.Outcome.Basic
import JsonRules.Rule.Basic

namespace JsonRules

def Check.outcome (c : Check) (explain valid evaluated : Bool) : CheckOutcome where
  description := c.description
  comment := c.comment
  command := c.command
  selector := c.selector.text
  rule := if explain then some c.document else none
  valid := valid
  evaluated := evaluated

def Check.passes (c : Check) (document : Json) : Bool :=
  c.test.passes (c.selector.locate document)

namespace Rule

mutual

/-- The outcome of a rule on a document when nothing stops the evaluation. -/
def evaluate (document : Json) (explain : Bool) : Rule → Outcome
  | check c => .check (c.outcome explain (c.passes document) true)
  | group connective children =>
    let outcomes := evaluateAll document explain children
    .group connective (connective.combine (outcomes.map Outcome.valid)) outcomes

def evaluateAll (document : Json) (explain : Bool) : List Rule → List Outcome
  | [] => []
  | r :: rest => evaluate document explain r :: evaluateAll document explain rest

end

mutual

def skip (explain : Bool) : Rule → Outcome
  | check c => .check (c.outcome explain false false)
  | group connective children => .group connective false (skipAll explain children)

def skipAll (explain : Bool) : List Rule → List Outcome
  | [] => []
  | r :: rest => skip explain r :: skipAll explain rest

end

mutual

/-- Evaluates a rule under a watch. Each group asks once whether to stop, and then skips all that is
in it; otherwise all its children are evaluated in order, whatever their verdicts are. -/
def run {σ : Type} (watch : Watch σ) (document : Json) (explain : Bool) : Rule → σ → Outcome × σ
  | check c, s =>
    (.check (c.outcome explain (c.passes document) true),
      (c.test.cancels (c.selector.locate document)).foldl (fun s name => watch.cancel name s) s)
  | group connective children, s =>
    match watch.stops s with
    | (true, s) => (skip explain (group connective children), s)
    | (false, s) =>
      let (outcomes, s) := runAll watch document explain children s
      (.group connective (connective.combine (outcomes.map Outcome.valid)) outcomes, s)

def runAll {σ : Type} (watch : Watch σ) (document : Json) (explain : Bool) :
    List Rule → σ → List Outcome × σ
  | [], s => ([], s)
  | r :: rest, s =>
    let (o, s) := run watch document explain r s
    let (os, s) := runAll watch document explain rest s
    (o :: os, s)

end

end Rule

end JsonRules
