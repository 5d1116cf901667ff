import Pacts.Yaml.Node
import Pacts.Yaml.Scanner

/-!
# YAML documents and their aliases

Anchors are numbered in the order in which their nodes begin: an anchor gets the number of different
anchor names in front of it, and an alias the number of the anchor of its name that came last.  A
name that is used again therefore gets a number that the next new name gets as well; among several
nodes of one number, an alias means the one that began last.

A document allows for a hundred times as many aliases to be followed as it has events, that is
scalars, aliases and the two ends of every collection.
-/

set_option autoImplicit false

namespace Pacts.Yaml

/-! ## Numbering -/

/-- The anchors so far: the names with their numbers, and the number of different names. -/
structure Numbering where
  numbers : List (String × Nat)
  count : Nat

namespace Numbering

/-- The numbering in which an anchor has been met. -/
def meet (g : Numbering) (name : String) : Numbering :=
  ⟨(name, g.count) :: g.numbers, if g.numbers.any (·.1 = name) then g.count else g.count + 1⟩

/-- Numbers the properties of a node. -/
def properties (g : Numbering) (p : Properties) : Properties × Numbering :=
  match p.anchor with
  | none => (p, g)
  | some name => ({ p with anchor := some (toString g.count) }, g.meet name)

mutual

/-- Numbers a node. -/
def node (g : Numbering) : Node → Except Problem (Node × Numbering)
  | .scalar p style text =>
    let (p, g) := g.properties p
    .ok (.scalar p style text, g)
  | .sequence p items => do
    let (p, g) := g.properties p
    let (items, g) ← nodes g items
    return (.sequence p items, g)
  | .mapping p members => do
    let (p, g) := g.properties p
    let (members, g) ← pairs g members
    return (.mapping p members, g)
  | .alias name =>
    match g.numbers.find? (·.1 = name) with
    | some (_, n) => .ok (.alias (toString n), g)
    | none => .error "unknown anchor"

/-- Numbers the items of a sequence. -/
def nodes (g : Numbering) : List Node → Except Problem (List Node × Numbering)
  | [] => .ok ([], g)
  | n :: ns => do
    let (n, g) ← node g n
    let (ns, g) ← nodes g ns
    return (n :: ns, g)

/-- Numbers the members of a mapping. -/
def pairs (g : Numbering) :
    List (Node × Node) → Except Problem (List (Node × Node) × Numbering)
  | [] => .ok ([], g)
  | (k, v) :: ms => do
    let (k, g) ← node g k
    let (v, g) ← node g v
    let (ms, g) ← pairs g ms
    return ((k, v) :: ms, g)

end

end Numbering

namespace Node

/-- The entry of a node in the table of anchors. -/
def entry (p : Properties) (n : Node) : List (String × Node) :=
  match p.anchor with
  | none => []
  | some name => [(name, n)]

mutual

/-- The nodes with anchors in the order in which they begin. -/
def anchored : Node → List (String × Node)
  | .scalar p style text => entry p (.scalar p style text)
  | .sequence p items => entry p (.sequence p items) ++ anchoredItems items
  | .mapping p members => entry p (.mapping p members) ++ anchoredMembers members
  | .alias _ => []

/-- The nodes with anchors among the items of a sequence. -/
def anchoredItems : List Node → List (String × Node)
  | [] => []
  | n :: ns => anchored n ++ anchoredItems ns

/-- The nodes with anchors among the members of a mapping. -/
def anchoredMembers : List (Node × Node) → List (String × Node)
  | [] => []
  | (k, v) :: ms => anchored k ++ (anchored v ++ anchoredMembers ms)

end

mutual

/-- The number of events of a node. -/
def events : Node → Nat
  | .scalar _ _ _ => 1
  | .sequence _ items => 2 + eventsOfItems items
  | .mapping _ members => 2 + eventsOfMembers members
  | .alias _ => 1

/-- The number of events of the items of a sequence. -/
def eventsOfItems : List Node → Nat
  | [] => 0
  | n :: ns => events n + eventsOfItems ns

/-- The number of events of the members of a mapping. -/
def eventsOfMembers : List (Node × Node) → Nat
  | [] => 0
  | (k, v) :: ms => events k + (events v + eventsOfMembers ms)

end

end Node

/-! ## Documents -/

/-- A document: its node, and the nodes that aliases mean, the one that counts first. -/
structure Document where
  root : Node
  table : List (String × Node)

/-- The only document of a text; `none` when the text holds none. -/
def readDocument (text : String) : Except Problem (Option Document) := do
  match ← Node.ofTokens (← tokens text) with
  | none => return none
  | some n =>
    let (root, _) ← Numbering.node ⟨[], 0⟩ n
    return some ⟨root, root.anchored.reverse⟩

/-- Reads from a document, with a number of aliases that may still be followed. -/
abbrev Reading := StateT Nat (Except Problem)

namespace Document

/-- The number of aliases that may be followed. -/
def allowance (d : Document) : Nat := d.root.events * 100

/-- The node that a node means: that of an alias, or itself. -/
def follow (d : Document) (n : Node) : Reading Node :=
  match n with
  | .alias name => do
    match ← get with
    | 0 => throw "repetition limit exceeded"
    | left + 1 =>
      set left
      match d.table.find? (·.1 = name) with
      | some (_, n) => return n
      | none => throw "unknown anchor"
  | n => return n

/-- Whether a node is a plain scalar without text. -/
def isEmpty : Node → Bool
  | .scalar _ .plain "" => true
  | _ => false

/-- The text of a scalar, whatever it means. -/
def text (d : Document) (n : Node) : Reading String := do
  match ← d.follow n with
  | .scalar _ _ text => return text
  | _ => throw "invalid type, expected a string"

/-- The members of a mapping; a node without text has none. -/
def members (d : Document) (n : Node) : Reading (List (Node × Node)) := do
  match ← d.follow n with
  | .mapping _ members => return members
  | n => if isEmpty n then return [] else throw "invalid type, expected a mapping"

/-- The items of a sequence; a node without text has none. -/
def items (d : Document) (n : Node) : Reading (List Node) := do
  match ← d.follow n with
  | .sequence _ items => return items
  | n => if isEmpty n then return [] else throw "invalid type, expected a sequence"

end Document

/-- Reads what a text holds; `absent` is what a text without a document stands for. -/
def readAs {α : Type} (text : String) (absent : α) (read : Document → Reading α) :
    Except Problem α := do
  match ← readDocument text with
  | none => return absent
  | some d => (read d).run' d.allowance

end Pacts.Yaml
