import JsonRules.Settings.Toml.Value

namespace JsonRules.Settings.Toml

def endLine? (s : List Char) : Option (List Char) := do
  match ← skipComment? (skipSpace s) with
  | [] => some []
  | '\n' :: r => some r
  | '\r' :: '\n' :: r => some r
  | _ => none

/-- Opens what a header names: a table, or one more table of several. -/
def openHeader? (isNext : Bool) (path : List String) (entries : Entries) : Option Entries := do
  let key ← path.getLast?
  alterAt? (if isNext then openNext? key else openTable? key) path.dropLast entries

/-- Reads a header up to the end of its line: a name between brackets, two on each side for one
table of several. -/
def readHeader? : List Char → Option (Bool × List String × List Char)
  | '[' :: '[' :: s => do
    match ← readKey? s with
    | (path, ']' :: ']' :: r) => return (true, path, ← endLine? r)
    | _ => none
  | '[' :: s => do
    match ← readKey? s with
    | (path, ']' :: r) => return (false, path, ← endLine? r)
    | _ => none
  | _ => none

/-- Reads the lines of a file; `current` is the way to the table that the last header opened. -/
def readLines? : Nat → List String → Entries → List Char → Option Entries
  | 0, _, _, _ => none
  | steps + 1, current, entries, s => do
    match ← skipLines? s.length s with
    | [] => some entries
    | '[' :: r =>
      let (isNext, path, r) ← readHeader? ('[' :: r)
      readLines? steps path (← openHeader? isNext path entries) r
    | s =>
      let (keys, r) ← readKey? s
      match r with
      | '=' :: r =>
        let (v, r) ← readValue? (depthLimit - 1) (r.length + 1) (skipSpace r)
        let entries ← alterAt? (assign? v keys) current entries
        readLines? steps current entries (← endLine? r)
      | _ => none

/-- Passes over the mark that an encoder may put in front of a text. -/
def skipMark : List Char → List Char
  | '\uFEFF' :: s => s
  | s => s

def table? (text : String) : Option SettingValue :=
  (readLines? (text.length + 1) [] [] (skipMark text.toList)).map fun entries =>
    .table (settings entries)

end JsonRules.Settings.Toml
