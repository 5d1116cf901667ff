import Pacts.Number.Shortest
import Pacts.Text.Quoted

/-!
# JSON values

A value is `null`, a truth value, a number, a text, a list of values or an object.  An object is
kept as the list of its members; `Json.get?` reads the first member of a name, so an object whose
names are all different behaves as a finite map, in whatever order its members stand.  The reader
of `Pacts.Json.Reader` puts them in order of their names.

An integer is kept exactly, any other number as a finite binary number.  `Json.same` is equality
up to the sign of zero: two values are the same when their canonical forms are equal, so it is an
equivalence relation by construction.
-/

set_option autoImplicit false

namespace Pacts

namespace Json

/-- A number of a JSON text. -/
inductive Number where
  | integer (n : Int)
  | float (x : Binary64)
  deriving DecidableEq, Repr

/-- The number with which a number is compared: both zeros of the binary numbers are one. -/
def Number.canonical : Number → Number
  | .integer n => .integer n
  | .float x => .float (if x.isZero then .zero false else x)

/-- The shape of a number in JSON: an integer as it is, and any other number in its shortest
digits. -/
def Number.text : Number → String
  | .integer n => toString n
  | .float x => x.text ⟨true⟩

end Json

/-- A JSON value. -/
inductive Json where
  | null
  | bool (b : Bool)
  | num (n : Json.Number)
  | str (s : String)
  | arr (items : List Json)
  | obj (members : List (String × Json))
  deriving Repr, Inhabited

namespace Json

/-! ## Equality -/

mutual

/-- Whether two values are equal. -/
def decEq : (a b : Json) → Decidable (a = b)
  | .null, .null => isTrue rfl
  | .bool a, .bool b => if h : a = b then isTrue (by rw [h]) else isFalse (by simpa using h)
  | .num a, .num b => if h : a = b then isTrue (by rw [h]) else isFalse (by simpa using h)
  | .str a, .str b => if h : a = b then isTrue (by rw [h]) else isFalse (by simpa using h)
  | .arr a, .arr b => match decEqItems a b with
    | isTrue h => isTrue (by rw [h])
    | isFalse h => isFalse (by simpa using h)
  | .obj a, .obj b => match decEqMembers a b with
    | isTrue h => isTrue (by rw [h])
    | isFalse h => isFalse (by simpa using h)
  | .null, .bool _ => isFalse (by simp)
  | .null, .num _ => isFalse (by simp)
  | .null, .str _ => isFalse (by simp)
  | .null, .arr _ => isFalse (by simp)
  | .null, .obj _ => isFalse (by simp)
  | .bool _, .null => isFalse (by simp)
  | .bool _, .num _ => isFalse (by simp)
  | .bool _, .str _ => isFalse (by simp)
  | .bool _, .arr _ => isFalse (by simp)
  | .bool _, .obj _ => isFalse (by simp)
  | .num _, .null => isFalse (by simp)
  | .num _, .bool _ => isFalse (by simp)
  | .num _, .str _ => isFalse (by simp)
  | .num _, .arr _ => isFalse (by simp)
  | .num _, .obj _ => isFalse (by simp)
  | .str _, .null => isFalse (by simp)
  | .str _, .bool _ => isFalse (by simp)
  | .str _, .num _ => isFalse (by simp)
  | .str _, .arr _ => isFalse (by simp)
  | .str _, .obj _ => isFalse (by simp)
  | .arr _, .null => isFalse (by simp)
  | .arr _, .bool _ => isFalse (by simp)
  | .arr _, .num _ => isFalse (by simp)
  | .arr _, .str _ => isFalse (by simp)
  | .arr _, .obj _ => isFalse (by simp)
  | .obj _, .null => isFalse (by simp)
  | .obj _, .bool _ => isFalse (by simp)
  | .obj _, .num _ => isFalse (by simp)
  | .obj _, .str _ => isFalse (by simp)
  | .obj _, .arr _ => isFalse (by simp)

/-- Whether two lists of values are equal. -/
def decEqItems : (a b : List Json) → Decidable (a = b)
  | [], [] => isTrue rfl
  | [], _ :: _ => isFalse (by simp)
  | _ :: _, [] => isFalse (by simp)
  | a :: as, b :: bs => match decEq a b, decEqItems as bs with
    | isTrue h, isTrue hs => isTrue (by rw [h, hs])
    | isFalse h, _ => isFalse (by simp [h])
    | _, isFalse hs => isFalse (by simp [hs])

/-- Whether two lists of members are equal. -/
def decEqMembers : (a b : List (String × Json)) → Decidable (a = b)
  | [], [] => isTrue rfl
  | [], _ :: _ => isFalse (by simp)
  | _ :: _, [] => isFalse (by simp)
  | (k, a) :: as, (l, b) :: bs =>
    if hk : k = l then
      match decEq a b, decEqMembers as bs with
      | isTrue h, isTrue hs => isTrue (by rw [hk, h, hs])
      | isFalse h, _ => isFalse (by simp [h])
      | _, isFalse hs => isFalse (by simp [hs])
    else isFalse (by simp [hk])

end

instance : DecidableEq Json := decEq

mutual

/-- A value with every zero of its binary numbers made positive. -/
def canonical : Json → Json
  | .null => .null
  | .bool b => .bool b
  | .num n => .num n.canonical
  | .str s => .str s
  | .arr items => .arr (canonicalItems items)
  | .obj members => .obj (canonicalMembers members)

/-- The canonical forms of a list of values. -/
def canonicalItems : List Json → List Json
  | [] => []
  | item :: items => canonical item :: canonicalItems items

/-- The canonical forms of a list of members. -/
def canonicalMembers : List (String × Json) → List (String × Json)
  | [] => []
  | (name, value) :: members => (name, canonical value) :: canonicalMembers members

end

/-- Two values that differ at most in the sign of a zero. -/
def same (a b : Json) : Bool := decide (a.canonical = b.canonical)

/-! ## Members -/

/-- The value of the first member of a name. -/
def lookupMember (name : String) : List (String × Json) → Option Json
  | [] => none
  | (n, v) :: members => if n = name then some v else lookupMember name members

/-- The member of an object by its name; any other value has no members. -/
def get? (v : Json) (name : String) : Option Json :=
  match v with
  | .obj members => lookupMember name members
  | _ => none

/-- The text, when the value is one. -/
def str? : Json → Option String
  | .str s => some s
  | _ => none

theorem get?_eq_some_iff {v w : Json} {name : String} :
    v.get? name = some w ↔ ∃ members, v = .obj members ∧ lookupMember name members = some w := by
  cases v <;> simp [get?]

theorem str?_eq_some_iff {v : Json} {s : String} : v.str? = some s ↔ v = .str s := by
  cases v <;> simp [str?]

/-- The truth value, when the value is one. -/
def bool? : Json → Option Bool
  | .bool b => some b
  | _ => none

/-- Whether the value is an object. -/
def isObject : Json → Bool
  | .obj _ => true
  | _ => false

/-- Puts a member in its place among members in order of their names; a member of the same name is
replaced. -/
def insertMember (name : String) (value : Json) : List (String × Json) → List (String × Json)
  | [] => [(name, value)]
  | (n, v) :: members =>
    if name < n then (name, value) :: (n, v) :: members
    else if name = n then (name, value) :: members
    else (n, v) :: insertMember name value members

/-- An object with the members of a list, in order of their names; of several members of one name
the last one counts. -/
def ofMembers (members : List (String × Json)) : Json :=
  .obj (members.foldl (fun sorted (name, value) => insertMember name value sorted) [])

/-! ## Descriptions -/

/-- What a value is, for a complaint about a value of the wrong kind. -/
def kind : Json → String
  | .null => "null"
  | .bool b => "boolean `" ++ toString b ++ "`"
  | .num (.integer n) => "integer `" ++ toString n ++ "`"
  | .num (.float x) => "floating point `" ++ x.text ⟨true⟩ ++ "`"
  | .str s => "string " ++ quoted s
  | .arr _ => "sequence"
  | .obj _ => "map"

end Json

end Pacts
