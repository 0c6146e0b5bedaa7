import JsonRules.Settings.Value

namespace JsonRules.Settings.Toml

/-- How a table came to be, which decides where it may be continued. -/
inductive Origin where
  | header
  | implied
  | dotted
deriving DecidableEq, Repr

inductive Node where
  | value (v : SettingValue)
  | table (origin : Origin) (entries : List (String × Node))
  /-- Tables under one name, of which the last one comes first. -/
  | tables (elements : List (List (String × Node)))

abbrev Entries := List (String × Node)

mutual

def Node.setting : Node → SettingValue
  | .value v => v
  | .table _ entries => .table (settings entries)
  | .tables elements => .list (settingTables elements).reverse

def settings : Entries → List (String × SettingValue)
  | [] => []
  | (key, node) :: rest => (key, node.setting) :: settings rest

def settingTables : List Entries → List SettingValue
  | [] => []
  | entries :: rest => .table (settings entries) :: settingTables rest

end

/-- Changes the entries of a table, or of the last one of several tables. -/
def Node.alter? (f : Entries → Option Entries) : Node → Option Node
  | .value _ => none
  | .table origin entries => (f entries).map (.table origin)
  | .tables [] => none
  | .tables (last :: earlier) => (f last).map fun last => .tables (last :: earlier)

/-- Changes the entries of the table that a path leads to. Tables on the way may be missing. -/
def alterAt? (f : Entries → Option Entries) : List String → Entries → Option Entries
  | [], entries => f entries
  | key :: path, entries =>
    let node : Option Node := match entries.lookup key with
      | none => (alterAt? f path []).map (.table .implied)
      | some node => node.alter? (alterAt? f path)
    node.map fun node => Members.insert key node entries

/-- Opens the table of a header. A header cannot open a table twice, nor one that keys with dots
made. -/
def openTable? (key : String) (entries : Entries) : Option Entries :=
  match entries.lookup key with
  | none => some (Members.insert key (.table .header []) entries)
  | some (.table .implied inner) => some (Members.insert key (.table .header inner) entries)
  | some _ => none

def openNext? (key : String) (entries : Entries) : Option Entries :=
  match entries.lookup key with
  | none => some (Members.insert key (.tables [[]]) entries)
  | some (.tables elements) => some (Members.insert key (.tables ([] :: elements)) entries)
  | some _ => none

/-- Sets a key, which may have dots. No key can be set twice, and the last table that dots lead to
has to be made by dots. -/
def assign? (v : SettingValue) : List String → Entries → Option Entries
  | [], _ => none
  | [key], entries =>
    match entries.lookup key with
    | none => some (Members.insert key (.value v) entries)
    | some _ => none
  | key :: path, entries =>
    let inner : Option Node := match entries.lookup key with
      | none => (assign? v path []).map (.table .dotted)
      | some (.table .header _) => none
      | some (.table .implied inner) =>
        if path.length = 1 then none else (assign? v path inner).map (.table .implied)
      | some (.table .dotted inner) => (assign? v path inner).map (.table .dotted)
      | some node => if path.length = 1 then none else node.alter? (assign? v path)
    inner.map fun node => Members.insert key node entries

end JsonRules.Settings.Toml
