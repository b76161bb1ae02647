import ReactorGen.Json.Value

/-!
# JSON text

The text of a JSON value with one member or item on each line, indented by two
spaces for every level.  Strings escape the quote, the backslash and the control
characters below the space, and nothing else.
-/

namespace ReactorGen
namespace Json

/-- One hexadecimal digit. -/
def hexDigit (value : Nat) : Char :=
  if value < 10 then Char.ofNat ('0'.toNat + value)
  else Char.ofNat ('a'.toNat + (value - 10))

/-- The spelling of a character inside a string. -/
def escapeChar (char : Char) : List Char :=
  if char = '"' then ['\\', '"']
  else if char = '\\' then ['\\', '\\']
  else if char = '\x08' then ['\\', 'b']
  else if char = '\t' then ['\\', 't']
  else if char = '\n' then ['\\', 'n']
  else if char = '\x0c' then ['\\', 'f']
  else if char = '\r' then ['\\', 'r']
  else if char.toNat < 0x20 then
    ['\\', 'u', '0', '0', hexDigit (char.toNat / 16), hexDigit (char.toNat % 16)]
  else [char]

/-- A string between quotes. -/
def quote (text : String) : String :=
  "\"" ++ String.ofList (text.toList.flatMap escapeChar) ++ "\""

/-- The start of a line at the given level. -/
def newLine (level : Nat) : String :=
  "\n" ++ String.ofList (List.replicate (2 * level) ' ')

mutual

/-- The text of a value that stands at the given level. -/
def printAt (level : Nat) : Json -> String
  | null => "null"
  | bool value => if value then "true" else "false"
  | number value => toString value
  | string text => quote text
  | array [] => "[]"
  | array (first :: rest) =>
    "[" ++ newLine (level + 1) ++ printAt (level + 1) first ++
      printItems (level + 1) rest ++ newLine level ++ "]"
  | object [] => "\x7b\x7d"
  | object ((name, value) :: rest) =>
    "\x7b" ++ newLine (level + 1) ++ quote name ++ ": " ++ printAt (level + 1) value ++
      printMembers (level + 1) rest ++ newLine level ++ "\x7d"

/-- The items after the first, each on a line of its own. -/
def printItems (level : Nat) : List Json -> String
  | [] => ""
  | item :: rest =>
    "," ++ newLine level ++ printAt level item ++ printItems level rest

/-- The members after the first, each on a line of its own. -/
def printMembers (level : Nat) : List (String × Json) -> String
  | [] => ""
  | (name, value) :: rest =>
    "," ++ newLine level ++ quote name ++ ": " ++ printAt level value ++
      printMembers level rest

end

/-- The text of a value. -/
def print (value : Json) : String :=
  printAt 0 value

end Json
end ReactorGen
