import Pacts.Yaml.Document
import Pacts.Yaml.Scalar

/-!
# YAML values

Where nothing else is asked of it, a node is read as the value it means.  A tag that starts with `!`
stays with the value.  A mapping may hold no key twice, where the order of the members of a key does
not count.
-/

set_option autoImplicit false

namespace Pacts.Yaml

/-- A value. -/
inductive Value where
  | null
  | bool (b : Bool)
  | integer (n : Int)
  | float (x : Float)
  | str (s : String)
  | seq (items : List Value)
  | map (members : List (Value × Value))
  | tagged (tag : String) (value : Value)
  deriving Repr

namespace Value

/-- Whether two numbers are taken for one: both zeros are. -/
def sameFloat : Float → Float → Bool
  | .finite x, .finite y => x.sameValue y
  | x, y => x == y

/-- Whether two values are equal, compared at most `fuel` deep. -/
def same : (fuel : Nat) → Value → Value → Bool
  | _, .null, .null => true
  | _, .bool a, .bool b => a == b
  | _, .integer a, .integer b => a == b
  | _, .float a, .float b => sameFloat a b
  | _, .str a, .str b => a == b
  | fuel + 1, .seq as, .seq bs =>
    as.length == bs.length && (as.zip bs).all fun (a, b) => same fuel a b
  | fuel + 1, .map as, .map bs =>
    as.length == bs.length &&
      as.all fun (k, v) => bs.any fun (l, w) => same fuel k l && same fuel v w
  | fuel + 1, .tagged s a, .tagged t b => s == t && same fuel a b
  | _, _, _ => false

/-- The text of a value that has one in a table of texts. -/
def text? : Value → Option String
  | .bool b => some (toString b)
  | .integer n => some (toString n)
  | .float x => some x.text
  | .str s => some s
  | _ => none

end Value

/-! ## Scalars -/

/-- The tag of the core schema with a name. -/
def coreTag (name : String) : String := "tag:yaml.org,2002:" ++ name

/-- The value of an integer; one that is too large for the programs that read it is refused. -/
def integerValue (n : Int) : Except Problem Value :=
  if Scalar.fits n then .ok (.integer n) else .error "integer out of range"

/-- The value of a plain scalar without a tag. -/
def plainValue (s : String) : Except Problem Value :=
  if s = "" ∨ Scalar.isNull s then .ok .null
  else match Scalar.bool? s with
  | some b => .ok (.bool b)
  | none =>
    match (Scalar.integer? s).filter Scalar.isInteger with
    | some n => integerValue n
    | none =>
      match if Scalar.isPadded s.toList then none else Scalar.float? s with
      | some x => .ok (.float x)
      | none => .ok (.str s)

/-- The value of a scalar; `tag` is its tag unless that starts with `!`. -/
def scalarValue (tag : Option String) (style : Style) (s : String) : Except Problem Value :=
  match tag with
  | some tag =>
    if tag = coreTag "bool" then
      match Scalar.bool? s with
      | some b => .ok (.bool b)
      | none => .error "invalid value, expected a boolean"
    else if tag = coreTag "int" then
      match (Scalar.integer? s).filter Scalar.isInteger with
      | some n => integerValue n
      | none => .error "invalid value, expected an integer"
    else if tag = coreTag "float" then
      match Scalar.float? s with
      | some x => .ok (.float x)
      | none => .error "invalid value, expected a float"
    else if tag = coreTag "null" then
      if Scalar.isNull s then .ok .null else .error "invalid value, expected null"
    else .ok (.str s)
  | none => if style = .plain then plainValue s else .ok (.str s)

/-! ## Nodes -/

/-- What follows the exclamation mark of a tag that starts with one. -/
def localTag? (tag : Option String) : Option String :=
  match tag.map String.toList with
  | some ['!'] => some "!"
  | some ('!' :: cs) => some (String.ofList cs)
  | _ => none

/-- The value, with its tag if that starts with `!`. -/
def withTag (p : Properties) (v : Value) : Value :=
  match localTag? p.tag with
  | some tag => .tagged tag v
  | none => v

/-- The deepest nesting of collections that is read. -/
def maxDepth : Nat := 128

/-- The value of a node whose collections are nested at most `depth` deep. -/
def Document.value (d : Document) : (depth : Nat) → Node → Reading Value
  | depth, n => do
    match ← d.follow n, depth with
    | .scalar p style text, _ =>
      let tag := if (localTag? p.tag).isSome then none else p.tag
      return withTag p (← scalarValue tag style text)
    | .sequence p items, depth + 1 =>
      return withTag p (.seq (← items.mapM (d.value depth)))
    | .mapping p members, depth + 1 => do
      let read ← members.foldlM (fun read (k, v) => do
        let k ← d.value depth k
        if read.any fun (l, _) => Value.same (maxDepth + maxDepth) k l then
          throw "duplicate entry"
        let v ← d.value depth v
        return (k, v) :: read) []
      return withTag p (.map read.reverse)
    | _, _ => throw "recursion limit exceeded"

end Pacts.Yaml
