import Noticeboard.Decimal.Layout
import Noticeboard.Json.Value
import Noticeboard.Text.Quoted

/-!
# Writing data values

`compact` writes a value on one line, `pretty` over indented lines, and `outline` names the kind of
every part, as log entries show it.
-/

namespace Noticeboard
namespace Json

def Number.text : Number → String
  | .whole n => toString n
  | .real x => Layout.data.render x

def escapeChar (c : Char) : String :=
  if c = '"' then "\\\""
  else if c = '\\' then "\\\\"
  else if c = '\n' then "\\n"
  else if c = '\r' then "\\r"
  else if c = '\t' then "\\t"
  else if c.toNat = 8 then "\\b"
  else if c.toNat = 12 then "\\f"
  else if c.toNat < 16 then "\\u000" ++ Text.hexDigits c.toNat
  else if c.toNat < 32 then "\\u00" ++ Text.hexDigits c.toNat
  else String.singleton c

def escaped (text : String) : String :=
  "\"" ++ String.join (text.toList.map escapeChar) ++ "\""

mutual

def compact : Json → String
  | .null => "null"
  | .bool value => if value then "true" else "false"
  | .num value => value.text
  | .str value => escaped value
  | .arr items => "[" ++ String.intercalate "," (compactItems items) ++ "]"
  | .obj members => "\x7b" ++ String.intercalate "," (compactMembers members) ++ "\x7d"

def compactItems : List Json → List String
  | [] => []
  | item :: rest => compact item :: compactItems rest

def compactMembers : List (String × Json) → List String
  | [] => []
  | (key, value) :: rest => (escaped key ++ ":" ++ compact value) :: compactMembers rest

end

/-- Two blanks for each level. -/
def indent (depth : Nat) : String :=
  String.ofList (List.replicate (2 * depth) ' ')

/-- Lists parts one to a line between two marks; no part gives the bare marks. -/
def block (opening closing : String) (depth : Nat) (parts : List String) : String :=
  if parts.isEmpty then opening ++ closing
  else opening ++ "\n" ++
    String.intercalate ",\n" (parts.map fun part => indent (depth + 1) ++ part) ++
    "\n" ++ indent depth ++ closing

mutual

def prettyAt (depth : Nat) : Json → String
  | .null => "null"
  | .bool value => if value then "true" else "false"
  | .num value => value.text
  | .str value => escaped value
  | .arr items => block "[" "]" depth (prettyItems (depth + 1) items)
  | .obj members => block "\x7b" "\x7d" depth (prettyMembers (depth + 1) members)

def prettyItems (depth : Nat) : List Json → List String
  | [] => []
  | item :: rest => prettyAt depth item :: prettyItems depth rest

def prettyMembers (depth : Nat) : List (String × Json) → List String
  | [] => []
  | (key, value) :: rest =>
    (escaped key ++ ": " ++ prettyAt depth value) :: prettyMembers depth rest

end

def pretty (value : Json) : String :=
  prettyAt 0 value

mutual

def outline : Json → String
  | .null => "Null"
  | .bool value => if value then "Bool(true)" else "Bool(false)"
  | .num value => "Number(" ++ value.text ++ ")"
  | .str value => "String(" ++ Text.quoted value ++ ")"
  | .arr items => "Array [" ++ String.intercalate ", " (outlineItems items) ++ "]"
  | .obj members =>
    "Object \x7b" ++ String.intercalate ", " (outlineMembers members) ++ "\x7d"

def outlineItems : List Json → List String
  | [] => []
  | item :: rest => outline item :: outlineItems rest

def outlineMembers : List (String × Json) → List String
  | [] => []
  | (key, value) :: rest => (Text.quoted key ++ ": " ++ outline value) :: outlineMembers rest

end

/-- The outline of a value that may be absent. -/
def outline? : Option Json → String
  | none => "None"
  | some value => "Some(" ++ outline value ++ ")"

end Json
end Noticeboard
