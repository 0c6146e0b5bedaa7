import JsonRules.Engine
import JsonRules.Json.TextFault
import JsonRules.Profile.Store

namespace JsonRules

inductive ServiceError where
  | invalidId (pattern : String)
  | notFound (id : String)
  | unavailable (reason : String)
  | invalidPayload (reason : String)
  | invalidSettings (reason : String)
  | validation (e : ValidationError)
  | notJson (text : String) (e : Json.TextError)
deriving DecidableEq, Repr

namespace ServiceError

def ofStore : StoreError → ServiceError
  | .notFound id => notFound id
  | .unavailable reason => unavailable reason

def message : ServiceError → String
  | invalidId pattern =>
    "The profile identifier is not valid, it must match the following expression: " ++ pattern
  | notFound _ => "This profile doesn't exist."
  | unavailable reason => "profile store unavailable: " ++ reason
  | invalidPayload reason => "invalid payload: " ++ reason
  | invalidSettings reason => "invalid configuration: " ++ reason
  | validation e => e.message
  | notJson text e => "invalid JSON: " ++ e.message text

def status : ServiceError → Nat
  | invalidId _ => 400
  | notFound _ => 404
  | unavailable _ => 503
  | invalidPayload _ => 400
  | invalidSettings _ => 500
  | validation (.rule _) => 400
  | validation (.cancelled _ _) => 504
  | notJson _ _ => 400

def code : ServiceError → String
  | invalidId _ => "INVALID_PROFILE_ID"
  | notFound _ => "PROFILE_NOT_FOUND"
  | unavailable _ => "STORE_UNAVAILABLE"
  | invalidPayload _ => "INVALID_PAYLOAD"
  | invalidSettings _ => "INVALID_CONFIG"
  | validation (.rule _) => "INVALID_RULES"
  | validation (.cancelled _ _) => "VALIDATION_CANCELLED"
  | notJson _ _ => "INVALID_JSON"

/-- Whether the same request may succeed later. -/
def isRetryable : ServiceError → Bool
  | unavailable _ => true
  | validation (.cancelled _ _) => true
  | _ => false

end ServiceError

structure ErrorBody where
  code : String
  message : String
deriving DecidableEq, Repr

namespace ErrorBody

def ofError (e : ServiceError) : ErrorBody := ⟨e.code, e.message⟩

def toJson (b : ErrorBody) : Json :=
  Json.ofMembers
    [("error", Json.ofMembers [("code", .string b.code), ("message", .string b.message)])]

def innerForm : RecordForm where
  name := "ErrorDetail"
  fields := [("code", true), ("message", true)]
  check key v := if key ∈ ["code", "message"] then v.decodeString.map fun _ => () else .ok ()

def innerOfJson (v : Json) : Decoded ErrorBody := do
  let members ← innerForm.read v
  return {
    code := ← RecordForm.required members "code" Json.decodeString
    message := ← RecordForm.required members "message" Json.decodeString }

def form : RecordForm where
  name := "ErrorBody"
  fields := [("error", true)]
  check key v := if key = "error" then (innerOfJson v).map fun _ => () else .ok ()

def ofJson (v : Json) : Decoded ErrorBody := do
  RecordForm.required (← form.read v) "error" innerOfJson

end ErrorBody

end JsonRules
