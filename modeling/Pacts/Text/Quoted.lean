import Pacts.Text.Printable

/-!
# Quoted text in diagnostics

A diagnostic shows a text between double quotes so that every character of it can be seen.  A quote
and a backslash are written after a backslash, the common controls by a letter, and every other
character that does not show by itself by its code point, as in `\u{200b}`.  A list of texts stands
between brackets, and a record is its name and its fields.
-/

set_option autoImplicit false

namespace Pacts.Text

/-- One character as it stands inside a quoted text. -/
def quoteChar (c : Char) : List Char :=
  if c = '"' then ['\\', '"']
  else if c = '\\' then ['\\', '\\']
  else if c = '\n' then ['\\', 'n']
  else if c = '\r' then ['\\', 'r']
  else if c = '\t' then ['\\', 't']
  else if c.toNat = 0 then ['\\', '0']
  else if isShown c then [c]
  else ['\\', 'u', '{'] ++ Nat.toDigits 16 c.toNat ++ ['}']

end Pacts.Text

namespace Pacts

/-- A text between double quotes, with every hidden character spelled out. -/
def quoted (s : String) : String :=
  String.ofList ('"' :: s.toList.flatMap Text.quoteChar ++ ['"'])

/-- Texts in a row, with a comma and a space between two of them. -/
def commaSeparated (items : List String) : String := ", ".intercalate items

/-- A list of texts, each quoted, between brackets. -/
def quotedList (items : List String) : String :=
  "[" ++ commaSeparated (items.map quoted) ++ "]"

/-- A record in a diagnostic: its name, then its fields between braces.  A record that keeps part of
itself to itself ends in two dots. -/
def showRecord (name : String) (fields : List (String × String)) (hidesMore : Bool) : String :=
  let shown := fields.map fun (label, value) => label ++ ": " ++ value
  let items := if hidesMore then shown ++ [".."] else shown
  name ++ " \x7b " ++ commaSeparated items ++ " \x7d"

end Pacts
