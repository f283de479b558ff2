import ScriptDesk.Json.Value

namespace ScriptDesk.Json

def hexPair (n : Nat) : Text := [Nat.digitChar (n / 16), Nat.digitChar (n % 16)]

def escape (c : Char) : Text :=
  if c = '"' then ['\\', '"']
  else if c = '\\' then ['\\', '\\']
  else if c = '\x08' then ['\\', 'b']
  else if c = '\x0c' then ['\\', 'f']
  else if c = '\n' then ['\\', 'n']
  else if c = '\r' then ['\\', 'r']
  else if c = '\t' then ['\\', 't']
  else if c.toNat < 0x20 then "\\u00".toList ++ hexPair c.toNat
  else [c]

def quote (t : Text) : Text := '"' :: t.flatMap escape ++ ['"']

def printBool (b : Bool) : Text := if b then "true".toList else "false".toList

mutual

def compact : Json Text → Text
  | .null => "null".toList
  | .bool b => printBool b
  | .number literal => literal
  | .string s => quote s
  | .array xs => '[' :: compactItems xs ++ [']']
  | .object ms => '\x7b' :: compactMembers ms ++ ['\x7d']

def compactItems : List (Json Text) → Text
  | [] => []
  | [x] => compact x
  | x :: y :: xs => compact x ++ ',' :: compactItems (y :: xs)

def compactMembers : List (Text × Json Text) → Text
  | [] => []
  | [(k, v)] => quote k ++ ':' :: compact v
  | (k, v) :: m :: ms => quote k ++ ':' :: compact v ++ ',' :: compactMembers (m :: ms)

end

def newLine (depth : Nat) : Text := '\n' :: Text.spaces (2 * depth)

mutual

def indented (depth : Nat) : Json Text → Text
  | .null => "null".toList
  | .bool b => printBool b
  | .number literal => literal
  | .string s => quote s
  | .array [] => "[]".toList
  | .array (x :: xs) => '[' :: indentedItems (depth + 1) (x :: xs) ++ newLine depth ++ [']']
  | .object [] => ['\x7b', '\x7d']
  | .object (m :: ms) =>
    '\x7b' :: indentedMembers (depth + 1) (m :: ms) ++ newLine depth ++ ['\x7d']

def indentedItems (depth : Nat) : List (Json Text) → Text
  | [] => []
  | [x] => newLine depth ++ indented depth x
  | x :: y :: xs => newLine depth ++ indented depth x ++ ',' :: indentedItems depth (y :: xs)

def indentedMembers (depth : Nat) : List (Text × Json Text) → Text
  | [] => []
  | [(k, v)] => newLine depth ++ quote k ++ ": ".toList ++ indented depth v
  | (k, v) :: m :: ms =>
    newLine depth ++ quote k ++ ": ".toList ++ indented depth v ++
      ',' :: indentedMembers depth (m :: ms)

end

end ScriptDesk.Json
