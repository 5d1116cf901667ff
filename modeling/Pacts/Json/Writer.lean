import Pacts.Json.Basic

/-!
# JSON texts from values

The compact text of a value has no blanks between its parts.  The indented text puts every item and
every member on a line of its own, two blanks further in than its list or object.

A text is written between double quotes.  Quotes, backslashes and the characters below the blank
are written after a backslash; everything else stands as it is.
-/

set_option autoImplicit false

namespace Pacts

namespace Json

/-- One character inside the quotes. -/
def escapeChar (c : Char) : List Char :=
  if c = '"' then ['\\', '"']
  else if c = '\\' then ['\\', '\\']
  else if c = '\n' then ['\\', 'n']
  else if c = '\r' then ['\\', 'r']
  else if c = '\t' then ['\\', 't']
  else if c.toNat = 0x08 then ['\\', 'b']
  else if c.toNat = 0x0C then ['\\', 'f']
  else if c.toNat < 0x20 then
    ['\\', 'u', '0', '0', Nat.digitChar (c.toNat / 16), Nat.digitChar (c.toNat % 16)]
  else [c]

/-- A text between double quotes. -/
def quote (s : String) : String :=
  String.ofList ('"' :: s.toList.flatMap escapeChar ++ ['"'])

/-- Texts with a comma between any two of them. -/
def commas (items : List String) : String := ",".intercalate items

mutual

/-- The compact text of a value. -/
def compact : Json → String
  | .null => "null"
  | .bool b => toString b
  | .num n => n.text
  | .str s => quote s
  | .arr items => "[" ++ commas (compactItems items) ++ "]"
  | .obj members => "\x7b" ++ commas (compactMembers members) ++ "\x7d"

/-- The compact texts of the items of a list. -/
def compactItems : List Json → List String
  | [] => []
  | item :: items => compact item :: compactItems items

/-- The compact texts of the members of an object. -/
def compactMembers : List (String × Json) → List String
  | [] => []
  | (name, value) :: members => (quote name ++ ":" ++ compact value) :: compactMembers members

end

/-- Lines of a list or an object between its brackets, each indented by `depth + 1` steps.  Without
lines the brackets stand together. -/
def block (opening closing : String) (depth : Nat) (lines : List String) : String :=
  let indent := fun n => String.ofList (List.replicate (2 * n) ' ')
  match lines with
  | [] => opening ++ closing
  | _ :: _ =>
    opening ++ "\n" ++ ",\n".intercalate (lines.map (indent (depth + 1) ++ ·)) ++ "\n" ++
      indent depth ++ closing

mutual

/-- The indented text of a value that stands `depth` steps in. -/
def indented (depth : Nat) : Json → String
  | .null => "null"
  | .bool b => toString b
  | .num n => n.text
  | .str s => quote s
  | .arr items => block "[" "]" depth (indentedItems (depth + 1) items)
  | .obj members => block "\x7b" "\x7d" depth (indentedMembers (depth + 1) members)

/-- The indented texts of the items of a list. -/
def indentedItems (depth : Nat) : List Json → List String
  | [] => []
  | item :: items => indented depth item :: indentedItems depth items

/-- The indented texts of the members of an object. -/
def indentedMembers (depth : Nat) : List (String × Json) → List String
  | [] => []
  | (name, value) :: members =>
    (quote name ++ ": " ++ indented depth value) :: indentedMembers depth members

end

end Json

end Pacts
