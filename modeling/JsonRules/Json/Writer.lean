import JsonRules.Json.Basic
import JsonRules.Text.Escaped

namespace JsonRules.Json

/-- A character inside a JSON string; only quotes, backslashes and controls are escaped. -/
def escapeChar (c : Char) : List Char :=
  if c == '"' then ['\\', '"']
  else if c == '\\' then ['\\', '\\']
  else if c == '\x08' then ['\\', 'b']
  else if c == '\x0c' then ['\\', 'f']
  else if c == '\n' then ['\\', 'n']
  else if c == '\r' then ['\\', 'r']
  else if c == '\t' then ['\\', 't']
  else if c.val < 0x20 then
    ['\\', 'u', '0', '0', if c.val < 0x10 then '0' else '1', Nat.digitChar (c.toNat % 16)]
  else [c]

def quote (s : String) : String :=
  String.ofList ('"' :: s.toList.flatMap escapeChar ++ ['"'])

mutual

def compact : Json → String
  | null => "null"
  | bool b => if b then "true" else "false"
  | number n => n.text
  | string s => quote s
  | array items => "[" ++ ",".intercalate (compactItems items) ++ "]"
  | object members => "\x7b" ++ ",".intercalate (compactMembers members) ++ "\x7d"

def compactItems : List Json → List String
  | [] => []
  | v :: rest => compact v :: compactItems rest

def compactMembers : List (String × Json) → List String
  | [] => []
  | (key, v) :: rest => (quote key ++ ":" ++ compact v) :: compactMembers rest

end

mutual

def described : Json → String
  | null => "Null"
  | bool b => "Bool(" ++ (if b then "true" else "false") ++ ")"
  | number n => "Number(" ++ n.text ++ ")"
  | string s => "String(" ++ Text.escaped s ++ ")"
  | array items => "Array [" ++ ", ".intercalate (describedItems items) ++ "]"
  | object members => "Object \x7b" ++ ", ".intercalate (describedMembers members) ++ "\x7d"

def describedItems : List Json → List String
  | [] => []
  | v :: rest => described v :: describedItems rest

def describedMembers : List (String × Json) → List String
  | [] => []
  | (key, v) :: rest => (Text.escaped key ++ ": " ++ described v) :: describedMembers rest

end

end JsonRules.Json
