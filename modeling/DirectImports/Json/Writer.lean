import DirectImports.Json.Basic
import DirectImports.Text.Hex

/-!
# Writing JSON text

`Value.compact` writes a value on one line; `Value.pretty` puts every item and field on a line of
its own, indented by two blanks a level, and writes empty containers on one line.
-/

namespace DirectImports.Json

open Text

/-- A character inside a string: quotes, backslashes and control characters are escaped. -/
def escapeChar (c : Char) : List Char :=
  if c = '"' then ['\\', '"']
  else if c = '\\' then ['\\', '\\']
  else if c = '\x08' then ['\\', 'b']
  else if c = '\x0c' then ['\\', 'f']
  else if c = '\n' then ['\\', 'n']
  else if c = '\r' then ['\\', 'r']
  else if c = '\t' then ['\\', 't']
  else if c.toNat < 0x20 then '\\' :: 'u' :: hex4 c.toNat
  else [c]

/-- A string in quotes. -/
def quoted (text : String) : String :=
  String.ofList ('"' :: text.toList.flatMap escapeChar ++ ['"'])

/-- Texts with a comma and a separator between each two. -/
def separated (separator : String) (texts : List String) : String :=
  String.intercalate ("," ++ separator) texts

mutual

/-- A value on one line. -/
def Value.compact : Value → String
  | .null => "null"
  | .bool b => if b then "true" else "false"
  | .integer i => toString i
  | .float x => Decimal.plainNumber.render x
  | .string s => quoted s
  | .array items => "[" ++ separated "" (compactItems items) ++ "]"
  | .object fields => "\x7b" ++ separated "" (compactFields fields) ++ "\x7d"

/-- The items of an array, each on one line. -/
def compactItems : List Value → List String
  | [] => []
  | item :: rest => item.compact :: compactItems rest

/-- The fields of an object, each on one line. -/
def compactFields : List (String × Value) → List String
  | [] => []
  | (key, value) :: rest => (quoted key ++ ":" ++ value.compact) :: compactFields rest

end

/-- Two blanks a level. -/
def indentation (level : Nat) : String :=
  String.ofList (List.replicate (2 * level) ' ')

/-- The lines of a container between its brackets. -/
def lines (level : Nat) (opening closing : String) (texts : List String) : String :=
  if texts.isEmpty then opening ++ closing
  else
    opening ++ "\n" ++ separated "\n" (texts.map (indentation (level + 1) ++ ·))
      ++ "\n" ++ indentation level ++ closing

mutual

/-- A value whose first line starts at an indentation level. -/
def Value.prettyAt (level : Nat) : Value → String
  | .array items => lines level "[" "]" (prettyItems (level + 1) items)
  | .object fields => lines level "\x7b" "\x7d" (prettyFields (level + 1) fields)
  | value => value.compact

/-- The items of an array at an indentation level. -/
def prettyItems (level : Nat) : List Value → List String
  | [] => []
  | item :: rest => item.prettyAt level :: prettyItems level rest

/-- The fields of an object at an indentation level. -/
def prettyFields (level : Nat) : List (String × Value) → List String
  | [] => []
  | (key, value) :: rest =>
    (quoted key ++ ": " ++ value.prettyAt level) :: prettyFields level rest

end

/-- A value with one item or field a line. -/
def Value.pretty (value : Value) : String :=
  value.prettyAt 0

end DirectImports.Json
