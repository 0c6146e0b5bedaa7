import JsonRules.Json.Decode
import JsonRules.Outcome.Run

namespace JsonRules

inductive PresencePolicy where
  /-- Every failing check counts. -/
  | reportAll
  /-- Once a path is found to lead nowhere, further failures on the same path do not count. -/
  | failFast
deriving DecidableEq, Repr

namespace PresencePolicy

def named : List (String × PresencePolicy) := [("report_all", reportAll), ("fail_fast", failFast)]

def name : PresencePolicy → String
  | reportAll => "report_all"
  | failFast => "fail_fast"

def ofJson : Json → Decoded PresencePolicy := Json.decodeVariant named

end PresencePolicy

structure Detail where
  id : String
  title : String
  command : String
  rule : Option Json
  passed : Bool
  /-- Whether the failure was not counted. -/
  suppressed : Bool

structure Report where
  errors : Nat
  /-- One entry for each check, if they were asked for. -/
  details : Option (List Detail)
  /-- The verdict of the whole rule, which may be good although some checks failed. -/
  verdict : Bool

namespace Report

/-- Whether no counted check failed. -/
def valid (r : Report) : Bool := r.errors == 0

def trivial (explain : Bool) : Report :=
  ⟨0, if explain then some [] else none, true⟩

/-- Marks the failures that follow a failed test for a required value on the same path; `missing`
holds the paths of those that failed so far. Tests for presence are never marked. -/
def suppressed (missing : List (List Segment)) : List (Check × CheckOutcome) → List Bool
  | [] => []
  | (c, o) :: rest =>
    if c.test.isRequired then
      false :: suppressed (if o.valid then missing else c.selector.segments :: missing) rest
    else
      (!c.test.checksPresence && !o.valid && missing.contains c.selector.segments) ::
        suppressed missing rest

def marks (policy : PresencePolicy) (checks : List Check) (outcomes : List CheckOutcome) :
    List Bool :=
  match policy with
  | .reportAll => outcomes.map fun _ => false
  | .failFast => suppressed [] (checks.zip outcomes)

def detail (o : CheckOutcome) (suppressed : Bool) : Detail :=
  ⟨o.description, o.comment, o.command, o.rule, o.valid, suppressed⟩

def ofOutcome (policy : PresencePolicy) (rule : Rule) (outcome : Outcome) (explain : Bool) :
    Report :=
  let marked := outcome.checks.zip (marks policy rule.checks outcome.checks)
  { errors := marked.countP fun (o, suppressed) => !o.valid && !suppressed
    details := if explain then some (marked.map fun (o, s) => detail o s) else none
    verdict := outcome.valid }

/-- The report in one line; all failed checks are listed, counted or not. -/
def text (r : Report) : String :=
  "valid: " ++ (if r.valid then "true" else "false") ++ ", errors: " ++ toString r.errors ++
    match r.details with
    | some details =>
      ", failed: [" ++ ", ".intercalate ((details.filter (!·.passed)).map (·.id)) ++ "]"
    | none => ""

end Report

/-- An entry leaves out the rule if there is none, and the mark if it is not set. -/
def Detail.toJson (d : Detail) : Json :=
  Json.ofMembers ([("ID", .string d.id), ("title", .string d.title), ("command", .string d.command),
    ("passed", .bool d.passed)] ++ (d.rule.map fun v => ("rule", v)).toList ++
    if d.suppressed then [("suppressed", .bool true)] else [])

namespace Detail

def form : RecordForm where
  name := "Detail"
  fields := [("ID", true), ("title", true), ("command", true), ("rule", false), ("passed", true),
    ("suppressed", false)]
  check key v :=
    if key ∈ ["ID", "title", "command"] then v.decodeString.map fun _ => ()
    else if key ∈ ["passed", "suppressed"] then v.decodeBool.map fun _ => ()
    else .ok ()

/-- Reads an entry back; null in place of the rule is no rule. -/
def ofJson (v : Json) : Decoded Detail := do
  let members ← form.read v
  return {
    id := ← RecordForm.required members "ID" Json.decodeString
    title := ← RecordForm.required members "title" Json.decodeString
    command := ← RecordForm.required members "command" Json.decodeString
    rule := (members.lookup "rule").filter (!·.isNull)
    passed := ← RecordForm.required members "passed" Json.decodeBool
    suppressed := ← RecordForm.optional members "suppressed" Json.decodeBool false }

end Detail

def Report.toJson (r : Report) : Json :=
  Json.ofMembers ([("valid", .bool r.valid), ("errors", .ofNat r.errors)] ++
    (r.details.map fun ds => ("details", .array (ds.map Detail.toJson))).toList)

end JsonRules
