import JsonRules.Json.Document
import JsonRules.Profile.Fault
import JsonRules.Settings.Basic

namespace JsonRules

/-- A service that keeps rule documents under names, called profiles, and validates against them. -/
structure Service where
  settings : Settings
  engine : Engine
  /-- The pattern of the settings, tied to both ends of a name. -/
  idPattern : Pattern

namespace Service

/-- The pattern of the settings between anchors. -/
def anchored (pattern : String) : String := "^(?:" ++ pattern ++ ")$"

def create (settings : Settings) (registry : Registry) : Except ServiceError Service :=
  match Pattern.ofText (anchored settings.profilePattern) with
  | .ok idPattern => .ok {
      settings, idPattern
      engine :=
        ⟨registry, settings.presencePolicy, Engine.clampThreshold settings.parallelThreshold⟩ }
  | .error message => .error (.invalidSettings ("profile_pattern: " ++ message))

def accepts (s : Service) (id : String) : Bool := s.idPattern.matchesIn id

def invalidId (s : Service) : ServiceError := .invalidId s.settings.profilePattern

def index (s : Service) : Json := Json.ofMembers [("version", .string s.settings.version)]

/-- The rules of a payload: an object, without a name, that is empty or a rule document. -/
def rulesOf (s : Service) (payload : Json) : Except ServiceError Json :=
  match payload with
  | .object members =>
    let rules := Store.withoutId (.object members)
    if Engine.isEmptyDocument rules then .ok rules
    else match s.engine.readRule rules with
      | .ok _ => .ok rules
      | .error e => .error (.validation (.rule e))
  | _ => .error (.invalidPayload "a rule profile must be a JSON object")

def upsertAnswer (id : String) : Json :=
  Json.ofMembers [("success", .bool true), ("profile", .string id)]

def changed (id : String) : Except StoreError Unit → Plan (Except ServiceError Json)
  | .ok () => .done (.ok (upsertAnswer id))
  | .error e => .done (.error (.ofStore e))

/-- Stores a profile in place of any other under its name. Nothing is stored unless the name and the
payload are valid. -/
def upsert (s : Service) (id : String) (payload : Json) : Plan (Except ServiceError Json) :=
  if s.accepts id then
    match s.rulesOf payload with
    | .error e => .done (.error e)
    | .ok rules =>
      .call (.has id) fun
        | .error e => .done (.error (.ofStore e))
        | .ok true => .call (.update id rules) (changed id)
        | .ok false => .call (.create id rules) (changed id)
  else .done (.error s.invalidId)

def get (s : Service) (id : String) : Plan (Except ServiceError Json) :=
  if s.accepts id then .call (.get id) fun answer => .done (answer.mapError .ofStore)
  else .done (.error s.invalidId)

/-- The rules that are stored under a name. A profile that does not exist has none, unless the
settings are strict. -/
def rules (s : Service) (id : String) : Plan (Except ServiceError (Option Json)) :=
  if s.accepts id then
    .call (.get id) fun
      | .ok object => .done (.ok (some (Store.withoutId object)))
      | .error (.notFound id) =>
        if s.settings.strictProfiles then .done (.error (.notFound id)) else .done (.ok none)
      | .error e => .done (.error (.ofStore e))
  else .done (.error s.invalidId)

def validateInline {σ : Type} (s : Service) (watch : Watch σ) (rules : Option Json) (target : Json)
    (explain : Bool) (world : σ) : Except ServiceError Report × σ :=
  let (answer, world) := s.engine.validateUntil watch rules target explain world
  (answer.mapError .validation, world)

def validateFetched {σ : Type} (s : Service) (watch : Watch σ)
    (fetched : Except ServiceError (Option Json)) (target : Json) (explain : Bool) (world : σ) :
    Except ServiceError Report × σ :=
  match fetched with
  | .ok rules => s.validateInline watch rules target explain world
  | .error e => (.error e, world)

def readText (text : String) : Except ServiceError Document :=
  (Document.ofText text).mapError (.notJson text)

/-- Validates a text against rules in a text; the target is read first. -/
def validateTexts {σ : Type} (s : Service) (watch : Watch σ) (target rules : String)
    (explain : Bool) (world : σ) : Except ServiceError Report × σ :=
  match readText target, readText rules with
  | .error e, _ => (.error e, world)
  | _, .error e => (.error e, world)
  | .ok target, .ok rules => s.validateInline watch (some rules.json) target.json explain world

end Service

end JsonRules
