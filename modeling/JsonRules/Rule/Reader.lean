import JsonRules.Rule.Basic
import JsonRules.Rule.Fault

namespace JsonRules

/-- What an object says by itself: a check, or a group whose children are still to be read. -/
inductive RuleHead where
  | check (c : Check)
  | group (connective : Connective) (children : List Json)

namespace RuleHead

def requiredString (members : Members Json) (key : String) : Except RuleFault String :=
  match members.lookup key with
  | some (.string s) => .ok s
  | some other => .error (.notString key other.kindName)
  | none => .error (.missing key)

def optionalString (members : Members Json) (key : String) : Except RuleFault (Option String) :=
  match members.lookup key with
  | none => .ok none
  | some .null => .ok none
  | some (.string s) => .ok (some s)
  | some other => .error (.notString key other.kindName)

/-- A negation has one child, any other group at least one. -/
def checkArity (connective : Connective) (count : Nat) : Except RuleFault Unit :=
  match connective with
  | .not => if count = 1 then .ok () else .error (.notOneChild count)
  | c => if count = 0 then .error (.noChild c) else .ok ()

def readConnective (members : Members Json) : Except RuleFault Connective := do
  let text ← requiredString members "operator"
  match Connective.ofText? text with
  | some c => return c
  | none => throw (.unknownConnective text)

def readChildren (members : Members Json) : Except RuleFault (List Json) :=
  match members.lookup "children" with
  | some (.array children) => .ok children
  | some other => .error (.childrenNotArray other.kindName)
  | none => .error (.missing "children")

def readGroup (members : Members Json) : Except RuleFault RuleHead :=
  match readConnective members, readChildren members with
  | .error e, _ => .error e
  | _, .error e => .error e
  | .ok connective, .ok children =>
    (checkArity connective children.length).map fun _ => group connective children

def readSelector (text : String) : Except RuleFault Selector :=
  (Selector.ofText text).mapError (.badSelector text)

def prepare (registry : Registry) (command : String) (arguments : Json) : Except RuleFault Test :=
  match registry.find? command with
  | none => .error (.unknownCommand command)
  | some c => (c.prepare arguments).mapError (.badArguments command)

/-- A check without a description of its own is described by its command and its selector. -/
def readCheck (registry : Registry) (members : Members Json) : Except RuleFault Check := do
  let text ← requiredString members "selector"
  let command ← requiredString members "command"
  let selector ← readSelector text
  let arguments := (members.lookup "arguments").getD .null
  let test ← prepare registry command arguments
  let description ← optionalString members "description"
  let comment ← optionalString members "comment"
  return {
    selector, command, arguments, test
    description := description.getD (command ++ "@" ++ text)
    comment := comment.getD ""
    document := .object members }

def ofJson (registry : Registry) : Json → Except RuleFault RuleHead
  | .object members =>
    let isGroup := Members.contains members "operator"
    let isCheck := Members.contains members "command" || Members.contains members "selector"
    match isGroup, isCheck with
    | true, true => .error .mixed
    | true, false => readGroup members
    | false, true => (readCheck registry members).map check
    | false, false => .error .neither
  | other => .error (.notObject other.kindName)

theorem sizeOf_lookup_lt {members : Members Json} {key : String} {v : Json}
    (h : members.lookup key = some v) : sizeOf v < sizeOf members := by
  induction members with
  | nil => simp at h
  | cons m rest ih =>
    obtain ⟨k, w⟩ := m
    rw [List.lookup_cons] at h
    split at h
    · cases h
      simp only [List.cons.sizeOf_spec, Prod.mk.sizeOf_spec]
      omega
    · have := ih h
      simp only [List.cons.sizeOf_spec]
      omega

theorem sizeOf_readChildren {members : Members Json} {children : List Json}
    (h : readChildren members = .ok children) : sizeOf children < sizeOf members := by
  unfold readChildren at h
  split at h
  · next heq =>
    cases h
    have := sizeOf_lookup_lt heq
    simp only [Json.array.sizeOf_spec] at this
    omega
  · cases h
  · cases h

/-- The children of a group are parts of its document. -/
theorem sizeOf_children_lt {registry : Registry} {document : Json} {connective : Connective}
    {children : List Json} (h : ofJson registry document = .ok (group connective children)) :
    sizeOf children < sizeOf document := by
  unfold ofJson at h
  split at h
  · next members =>
    dsimp only at h
    split at h
    · cases h
    · unfold readGroup at h
      split at h
      · cases h
      · cases h
      · next hchildren =>
        have hlt := sizeOf_readChildren hchildren
        simp only [Except.map] at h
        split at h
        · cases h
        · cases h
          simp only [Json.object.sizeOf_spec]
          omega
    · simp only [Except.map] at h
      split at h <;> cases h
    · cases h
  · cases h

end RuleHead

namespace Rule

mutual

/-- Reads a rule document. Of several faults the first in the order of the document is reported, and
a group's own faults come before those of its children. -/
def ofJson (registry : Registry) (path : List Nat) (document : Json) : Except RuleError Rule :=
  match _h : RuleHead.ofJson registry document with
  | .error fault => .error ⟨path, fault⟩
  | .ok (.check c) => .ok (.check c)
  | .ok (.group connective children) =>
    (ofChildren registry path 0 children).map (.group connective)
termination_by sizeOf document
decreasing_by exact RuleHead.sizeOf_children_lt _h

def ofChildren (registry : Registry) (path : List Nat) (i : Nat) :
    List Json → Except RuleError (List Rule)
  | [] => .ok []
  | document :: rest =>
    match ofJson registry (path ++ [i]) document with
    | .error e => .error e
    | .ok r => (ofChildren registry path (i + 1) rest).map (r :: ·)
termination_by documents => sizeOf documents

end

def ofDocument (registry : Registry) (document : Json) : Except RuleError Rule :=
  ofJson registry [] document

end Rule

end JsonRules
