import Pseudocode.Text.Basic

/-!
# JSON values

The values that listings are made of, and their written form over several lines. Members of an
object keep their order, and a text is quoted with the shortest escape of each character that needs
one.
-/

namespace Pseudocode

/-- A JSON value without numbers. -/
inductive Json where
  | null
  | string (text : Text)
  | array (items : List Json)
  | object (members : List (Text × Json))

namespace Json

def hexDigit (n : Nat) : Char := Char.ofNat (if n < 10 then 48 + n else 87 + n)

def quoteChar (c : Char) : Text :=
  if c = '"' then ['\\', '"']
  else if c = '\\' then ['\\', '\\']
  else if c = '\x08' then ['\\', 'b']
  else if c = '\t' then ['\\', 't']
  else if c = '\n' then ['\\', 'n']
  else if c = '\x0c' then ['\\', 'f']
  else if c = '\r' then ['\\', 'r']
  else if c.toNat < 32 then ['\\', 'u', '0', '0', hexDigit (c.toNat / 16), hexDigit (c.toNat % 16)]
  else [c]

/-- A text in quotes. -/
def quote (t : Text) : Text := '"' :: t.flatMap quoteChar ++ ['"']

/-- A line feed and two spaces for each level. -/
def newLine (depth : Nat) : Text := '\n' :: List.replicate (2 * depth) ' '

mutual

/-- The written form of a value at a depth of nesting. -/
def write (depth : Nat) : Json → Text
  | null => "null".toList
  | string t => quote t
  | array [] => "[]".toList
  | array (item :: items) =>
    '[' :: newLine (depth + 1) ++ write (depth + 1) item ++ writeItems (depth + 1) items
      ++ newLine depth ++ [']']
  | object [] => "\x7b\x7d".toList
  | object ((name, value) :: members) =>
    '\x7b' :: newLine (depth + 1) ++ quote name ++ ": ".toList ++ write (depth + 1) value
      ++ writeMembers (depth + 1) members ++ newLine depth ++ ['\x7d']

def writeItems (depth : Nat) : List Json → Text
  | [] => []
  | item :: items => ',' :: newLine depth ++ write depth item ++ writeItems depth items

/-- The written form of the further members of an object. -/
def writeMembers (depth : Nat) : List (Text × Json) → Text
  | [] => []
  | (name, value) :: members =>
    ',' :: newLine depth ++ quote name ++ ": ".toList ++ write depth value
      ++ writeMembers depth members

end

end Json
end Pseudocode
