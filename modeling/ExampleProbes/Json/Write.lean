import ExampleProbes.Json.Basic
import ExampleProbes.Decimal.Layout
/-
JSON text, compact or indented by two spaces. Only quotes, backslashes and control
characters below the space are escaped in strings.
-/
namespace ExampleProbes.Json

def hexChar (n : Nat) : Char := "0123456789abcdef".toList.getD n '0'

def escape (c : Char) : List Char :=
  if c = '\x22' then ['\\', '\x22']
  else if c = '\\' then ['\\', '\\']
  else if c = '\n' then ['\\', 'n']
  else if c = '\r' then ['\\', 'r']
  else if c = '\t' then ['\\', 't']
  else if c = '\x08' then ['\\', 'b']
  else if c = '\x0c' then ['\\', 'f']
  else if c.toNat < 0x20 then
    ['\\', 'u', '0', '0', hexChar (c.toNat / 16), hexChar (c.toNat % 16)]
  else [c]

def quoted (text : String) : String :=
  String.ofList ('\x22' :: (text.toList.flatMap escape ++ ['\x22']))

mutual
def compact : Json → String
  | .null => "null"
  | .bool b => if b then "true" else "false"
  | .int n => toString n
  | .float x => Decimal.textOf x
  | .string text => quoted text
  | .array [] => "[]"
  | .array (item :: rest) => "[" ++ compact item ++ compactItems rest ++ "]"
  | .object [] => "\x7b\x7d"
  | .object ((name, value) :: rest) =>
    "\x7b" ++ quoted name ++ ":" ++ compact value ++ compactFields rest ++ "\x7d"

def compactItems : List Json → String
  | [] => ""
  | item :: rest => "," ++ compact item ++ compactItems rest

def compactFields : List (String × Json) → String
  | [] => ""
  | (name, value) :: rest => "," ++ quoted name ++ ":" ++ compact value ++ compactFields rest
end

/-- The start of a line at the given depth. -/
def indent (depth : Nat) : String := String.ofList ('\n' :: List.replicate (2 * depth) ' ')

mutual
def prettyAt (depth : Nat) : Json → String
  | .array (item :: rest) =>
    "[" ++ indent (depth + 1) ++ prettyAt (depth + 1) item ++ prettyItems (depth + 1) rest ++
      indent depth ++ "]"
  | .object ((name, value) :: rest) =>
    "\x7b" ++ indent (depth + 1) ++ quoted name ++ ": " ++ prettyAt (depth + 1) value ++
      prettyFields (depth + 1) rest ++ indent depth ++ "\x7d"
  | .null => "null"
  | .bool b => if b then "true" else "false"
  | .int n => toString n
  | .float x => Decimal.textOf x
  | .string text => quoted text
  | .array [] => "[]"
  | .object [] => "\x7b\x7d"

def prettyItems (depth : Nat) : List Json → String
  | [] => ""
  | item :: rest => "," ++ indent depth ++ prettyAt depth item ++ prettyItems depth rest

def prettyFields (depth : Nat) : List (String × Json) → String
  | [] => ""
  | (name, value) :: rest =>
    "," ++ indent depth ++ quoted name ++ ": " ++ prettyAt depth value ++
      prettyFields depth rest
end

def pretty (value : Json) : String := prettyAt 0 value

end ExampleProbes.Json
