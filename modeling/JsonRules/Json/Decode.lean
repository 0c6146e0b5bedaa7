import JsonRules.Json.Writer

namespace JsonRules

inductive DecodeFault where
  | missingField (name : String)
  | wrongType (found expected : String)
  | wrongValue (found expected : String)
  | wrongLength (length : Nat) (expected : String)
  | unknownVariant (name : String) (expected : List String)
deriving DecidableEq, Repr

def alternatives : List String → String
  | [] => ""
  | [a] => "`" ++ a ++ "`"
  | [a, b] => "`" ++ a ++ "` or `" ++ b ++ "`"
  | names => "one of " ++ ", ".intercalate (names.map fun a => "`" ++ a ++ "`")

def DecodeFault.message : DecodeFault → String
  | missingField name => "missing field `" ++ name ++ "`"
  | wrongType found expected => "invalid type: " ++ found ++ ", expected " ++ expected
  | wrongValue found expected => "invalid value: " ++ found ++ ", expected " ++ expected
  | wrongLength length expected => "invalid length " ++ toString length ++ ", expected " ++ expected
  | unknownVariant name expected =>
    "unknown variant `" ++ name ++ "`, expected " ++ alternatives expected

abbrev Decoded (α : Type) := Except DecodeFault α

namespace Json

def found : Json → String
  | null => "null"
  | bool b => "boolean `" ++ (if b then "true" else "false") ++ "`"
  | number (.integer i) => "integer `" ++ toString i ++ "`"
  | number (.double d) => "floating point `" ++ (Number.double d).text ++ "`"
  | string s => "string " ++ Text.escaped s
  | array _ => "sequence"
  | object _ => "map"

def wrongType {α : Type} (v : Json) (expected : String) : Decoded α :=
  .error (.wrongType v.found expected)

def decodeString : Json → Decoded String
  | string s => .ok s
  | v => v.wrongType "a string"

def decodeBool : Json → Decoded Bool
  | bool b => .ok b
  | v => v.wrongType "a boolean"

/-- An unsigned integer; a negative one has the right type and the wrong value. -/
def decodeCount : Json → Decoded Nat
  | number (.integer i) =>
    if 0 ≤ i then .ok i.toNat else .error (.wrongValue (number (.integer i)).found "usize")
  | v => v.wrongType "usize"

def decodeNull : Json → Decoded Unit
  | null => .ok ()
  | v => v.wrongType "unit"

/-- A name, or an object with the name as its only key and null as the value. -/
def decodeVariant {α : Type} (variants : List (String × α)) : Json → Decoded α
  | string name => variant name
  | object [(name, v)] => do
    let a ← variant name
    decodeNull v
    return a
  | object _ => .error (.wrongValue "map" "map with a single key")
  | v => v.wrongType "string or map"
where
  variant (name : String) : Decoded α :=
    match variants.lookup name with
    | some a => .ok a
    | none => .error (.unknownVariant name (variants.map (·.1)))

end Json

/-- The form of a record: its fields in order with whether they are required, and what a field's
value has to satisfy. -/
structure RecordForm where
  name : String
  fields : List (String × Bool)
  check : String → Json → Decoded Unit

namespace RecordForm

def title (form : RecordForm) : String := "struct " ++ form.name

def lengthExpectation (form : RecordForm) : String :=
  form.title ++ " with " ++ toString form.fields.length ++
    if form.fields.length = 1 then " element" else " elements"

/-- Checks the items of a list against the fields from number `i` on. Items may be missing only
where no field is required. -/
def checkItems (form : RecordForm) : List (String × Bool) → List Json → Nat → Decoded Unit
  | [], items, i =>
    if items.isEmpty then .ok ()
    else .error (.wrongLength (i + items.length) "fewer elements in array")
  | (_, required) :: fields, [], i =>
    if required then .error (.wrongLength i form.lengthExpectation)
    else checkItems form fields [] (i + 1)
  | (name, _) :: fields, v :: items, i => do
    form.check name v
    checkItems form fields items (i + 1)

/-- Checks the members of an object in their order. Members with other keys than those of fields are
ignored. -/
def checkMembers (form : RecordForm) : List (String × Json) → Decoded Unit
  | [] => .ok ()
  | (key, v) :: members => do
    form.check key v
    checkMembers form members

def missing? (form : RecordForm) (members : List (String × Json)) : Option String :=
  (form.fields.find? fun (name, required) => required && (members.lookup name).isNone).map (·.1)

/-- The fields of a record that is written as an object or as a list of its fields. A fault in a
value comes before a field that is missing. -/
def read (form : RecordForm) : Json → Decoded (List (String × Json))
  | .object members => do
    form.checkMembers members
    match form.missing? members with
    | some name => .error (.missingField name)
    | none => .ok members
  | .array items => do
    form.checkItems form.fields items 0
    return (form.fields.map (·.1)).zip items
  | v => v.wrongType form.title

def required {α : Type} (members : List (String × Json)) (name : String)
    (decode : Json → Decoded α) : Decoded α :=
  match members.lookup name with
  | some v => decode v
  | none => .error (.missingField name)

def optional {α : Type} (members : List (String × Json)) (name : String) (decode : Json → Decoded α)
    (default : α) : Decoded α :=
  match members.lookup name with
  | some v => decode v
  | none => .ok default

end RecordForm

end JsonRules
