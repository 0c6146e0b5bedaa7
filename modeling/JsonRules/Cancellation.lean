namespace JsonRules

/-- A handle by which evaluations are stopped: a flag, or a deadline that has passed. -/
structure Token where
  flag : Nat
  expired : Bool
deriving DecidableEq, Repr

/-- Tokens by name, and the flags that have been raised. Copies of a token share its flag, and no
flag is ever taken down. -/
structure Tokens where
  named : List (String × Token)
  raised : List Nat
  flagCount : Nat
deriving DecidableEq, Repr

namespace Tokens

def empty : Tokens := ⟨[], [], 0⟩

def find? (t : Tokens) (name : String) : Option Token := t.named.lookup name

def create (t : Tokens) (name : String) (expired : Bool) : Tokens :=
  ⟨(name, ⟨t.flagCount, expired⟩) :: t.named, t.raised, t.flagCount + 1⟩

def copy (t : Tokens) (name source : String) : Tokens :=
  match t.find? source with
  | some token => { t with named := (name, token) :: t.named }
  | none => t

def cancel (t : Tokens) (name : String) : Tokens :=
  match t.find? name with
  | some token => { t with raised := token.flag :: t.raised }
  | none => t

def isCancelled (t : Tokens) (token : Token) : Bool :=
  token.expired || t.raised.contains token.flag

end Tokens

/-- What an evaluation sees of the world around it: whether it is to stop, which is asked before
each group, and what becomes of the world when a predicate cancels a token. -/
structure Watch (σ : Type) where
  stops : σ → Bool × σ
  cancel : String → σ → σ

def Tokens.watch (token : Option Token) : Watch Tokens where
  stops t := (token.any t.isCancelled, t)
  cancel name t := t.cancel name

end JsonRules
