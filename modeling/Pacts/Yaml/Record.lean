import Pacts.Yaml.Value

/-!
# Records in YAML

A record has members of certain names, and what is asked of a member is not just any value but a
text, a truth value, a number or a list.  Only a member that may be missing can stand for nothing.
-/

set_option autoImplicit false

namespace Pacts.Yaml

namespace Document

/-- Whether a scalar may mean more than its text: it is plain, or it is a literal block with the
tag of what it should mean. -/
def speaks (expected : String) (p : Properties) (style : Style) : Bool :=
  style == .plain || (style == .literal && p.tag == some (coreTag expected))

/-- The truth value of a scalar. -/
def truth (d : Document) (n : Node) : Reading Bool := do
  match ← d.follow n with
  | .scalar p style text =>
    if speaks "bool" p style then
      match Scalar.bool? text with
      | some b => return b
      | none => throw "invalid type, expected a boolean"
    else throw "invalid type, expected a boolean"
  | _ => throw "invalid type, expected a boolean"

/-- The number of a scalar, which is less than a limit. -/
def number (d : Document) (limit : Nat) (n : Node) : Reading Nat := do
  match ← d.follow n with
  | .scalar p style text =>
    match if speaks "int" p style then Scalar.natural? text else none with
    | some k => if k < limit then return k else throw "invalid type, expected a number"
    | none => throw "invalid type, expected a number"
  | _ => throw "invalid type, expected a number"

/-- The texts of the items of a sequence. -/
def texts (d : Document) (n : Node) : Reading (List String) := do
  (← d.items n).mapM d.text

/-- Whether there is anything at a node. -/
def isPresent : Node → Except Problem Bool
  | .scalar p .plain text =>
    match p.tag with
    | some tag =>
      if tag = coreTag "null" then
        if Scalar.isNull text then .ok false else .error "invalid value, expected null"
      else .ok true
    | none => .ok (text != "" && !Scalar.isNull text)
  | _ => .ok true

/-- What is read from a node if there is anything. -/
def optional {α : Type} (d : Document) (read : Node → Reading α) (n : Node) :
    Reading (Option α) := do
  let n ← d.follow n
  if ← isPresent n then return some (← read n) else return none

/-- Reads the members of a mapping into a record, where no name may come twice for which there is a
way to read it. -/
def fields {α : Type} (d : Document) (read : String → Option (α → Node → Reading α)) (start : α)
    (n : Node) : Reading α := do
  let (record, _) ← (← d.members n).foldlM (fun (record, seen) (key, value) => do
    let name ← d.text key
    match read name with
    | none => return (record, seen)
    | some set =>
      if seen.contains name then throw "duplicate field"
      return (← set record value, name :: seen)) (start, ([] : List String))
  return record

end Document

end Pacts.Yaml
