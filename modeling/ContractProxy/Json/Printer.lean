import ContractProxy.Json.Tree

/-!
The compact text of a JSON value.
-/

set_option autoImplicit false

namespace ContractProxy.Json

def controlDigits (c : Char) : Text :=
  "00" ++ [Nat.digitChar (c.toNat / 16), Nat.digitChar (c.toNat % 16)]

/-- A character inside a string. Quotes, backslashes and control characters are escaped, nothing
else is. -/
def escapedChar (c : Char) : Text :=
  if c = '\"' || c = '\\' then ['\\', c]
  else if c = '\x08' then "\\b"
  else if c = '\x0c' then "\\f"
  else if c = '\n' then "\\n"
  else if c = '\r' then "\\r"
  else if c = '\t' then "\\t"
  else if c.toNat < 32 then "\\u" ++ controlDigits c
  else [c]

def stringText (t : Text) : Text :=
  '\"' :: t.flatMap escapedChar ++ "\""

def ofText (t : Text) : Json := .string (some t)

def ofNat (n : Nat) : Json := .number (Text.decimal n)

def ofMembers (members : List (Text × Json)) : Json :=
  .object (members.map fun (key, value) => (ofText key, value)) true

def ofList (items : List Json) : Json := .array items true

mutual

def render : Json → Text
  | .null => "null"
  | .bool true => "true"
  | .bool false => "false"
  | .number spelling => spelling
  | .string content => stringText (content.getD [])
  | .array [] _ => "[]"
  | .array (first :: rest) _ => '[' :: render first ++ renderItems rest ++ "]"
  | .object [] _ => "\x7b\x7d"
  | .object ((key, value) :: rest) _ =>
    '\x7b' :: render key ++ ":" ++ render value ++ renderMembers rest ++ "\x7d"
  | .absent => []

def renderItems : List Json → Text
  | [] => []
  | item :: rest => ',' :: render item ++ renderItems rest

def renderMembers : List (Json × Json) → Text
  | [] => []
  | (key, value) :: rest =>
    ',' :: render key ++ ":" ++ render value ++ renderMembers rest

end

end ContractProxy.Json
