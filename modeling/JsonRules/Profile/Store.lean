import JsonRules.Json.Basic

namespace JsonRules

inductive StoreError where
  | notFound (id : String)
  | unavailable (reason : String)
deriving DecidableEq, Repr

def StoreError.message : StoreError → String
  | notFound id => "object '" ++ id ++ "' not found"
  | unavailable reason => "object store unavailable: " ++ reason

/-- A call of the store; each takes effect at once. -/
inductive StoreCall where
  | has (id : String)
  | get (id : String)
  | create (id : String) (object : Json)
  | update (id : String) (object : Json)

inductive StoreCallKind where
  | has
  | get
  | create
  | update
deriving DecidableEq, Repr

namespace StoreCall

abbrev Answer : StoreCall → Type
  | has _ => Bool
  | get _ => Json
  | create _ _ => Unit
  | update _ _ => Unit

def kind : StoreCall → StoreCallKind
  | has _ => .has
  | get _ => .get
  | create _ _ => .create
  | update _ _ => .update

end StoreCall

structure Outage where
  calls : List StoreCallKind
  reason : String
deriving DecidableEq, Repr

structure Store where
  objects : SortedMembers Json
  outage : Option Outage

namespace Store

def empty : Store := ⟨.empty, none⟩

/-- The member under which an object keeps the name it is stored under. -/
def idField : String := "_id"

/-- An object with its name; other values stay as they are. -/
def withId (id : String) : Json → Json
  | .object members => .object (Members.insert idField (.string id) members)
  | v => v

def withoutId : Json → Json
  | .object members => .object (Members.erase idField members)
  | v => v

def find? (s : Store) (id : String) : Option Json := s.objects.members.lookup id

def size (s : Store) : Nat := s.objects.members.length

def put (s : Store) (id : String) (object : Json) : Store :=
  { s with objects := s.objects.insert id (withId id object) }

def failure? (s : Store) (kind : StoreCallKind) : Option String :=
  s.outage.bind fun o => if o.calls.contains kind then some o.reason else none

def answer (s : Store) : (c : StoreCall) → Except StoreError c.Answer × Store
  | .has id => (.ok (s.find? id).isSome, s)
  | .get id =>
    match s.find? id with
    | some object => (.ok object, s)
    | none => (.error (.notFound id), s)
  | .create id object => (.ok (), s.put id object)
  | .update id object =>
    if (s.find? id).isSome then (.ok (), s.put id object) else (.error (.notFound id), s)

/-- A call that fails has no effect. -/
def perform (s : Store) (c : StoreCall) : Except StoreError c.Answer × Store :=
  match s.failure? c.kind with
  | some reason => (.error (.unavailable reason), s)
  | none => s.answer c

end Store

/-- What is done at a store: calls one after the other, each of which may depend on the answers to
those before it. -/
inductive Plan (α : Type) where
  | done (a : α)
  | call (c : StoreCall) (next : Except StoreError c.Answer → Plan α)

/-- Carries a plan out with nothing between its calls. -/
def Plan.run {α : Type} : Plan α → Store → α × Store
  | done a, s => (a, s)
  | call c next, s => (next (s.perform c).1).run (s.perform c).2

end JsonRules
