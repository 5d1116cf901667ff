import Pacts.Proofs.Json.Layout

/-!
# Indented texts are read back

`read_indented` says that the indented text of a value is read as that value, with the members of
every object in order of their names (`Json.ordered`).  It holds of the values that the reader can
take back at all: those that are not nested too deep and whose numbers are integers of 64 bits
(`Json.Legible`).  The line break that ends a text changes nothing.
-/

set_option autoImplicit false

namespace Pacts.Json

mutual

/-- A value with the members of every object in order of their names. -/
def ordered : Json → Json
  | .null => .null
  | .bool b => .bool b
  | .num n => .num n
  | .str s => .str s
  | .arr items => .arr (orderedItems items)
  | .obj members => ofMembers (orderedMembers members)

/-- The items of a list, each in order. -/
def orderedItems : List Json → List Json
  | [] => []
  | item :: items => ordered item :: orderedItems items

/-- The members of an object as they stand, the value of each in order. -/
def orderedMembers : List (String × Json) → List (String × Json)
  | [] => []
  | (name, value) :: members => (name, ordered value) :: orderedMembers members

end

mutual

/-- A value whose lists and objects are nested at most `depth` deep and whose numbers are integers
of 64 bits. -/
def Legible : Json → (depth : Nat) → Prop
  | .null, _ => True
  | .bool _, _ => True
  | .num n, _ => n.IsWord
  | .str _, _ => True
  | .arr _, 0 => False
  | .arr items, depth + 1 => LegibleItems items depth
  | .obj _, 0 => False
  | .obj members, depth + 1 => LegibleMembers members depth

/-- The items of a list are legible. -/
def LegibleItems : List Json → (depth : Nat) → Prop
  | [], _ => True
  | item :: items, depth => item.Legible depth ∧ LegibleItems items depth

/-- The values of members are legible. -/
def LegibleMembers : List (String × Json) → (depth : Nat) → Prop
  | [], _ => True
  | (_, value) :: members, depth => value.Legible depth ∧ LegibleMembers members depth

end

theorem orderedItems_eq_map (items : List Json) : orderedItems items = items.map ordered := by
  induction items with
  | nil => rfl
  | cons item items ih => rw [orderedItems, ih, List.map_cons]

theorem legibleItems_iff (items : List Json) (depth : Nat) :
    LegibleItems items depth ↔ ∀ item ∈ items, item.Legible depth := by
  induction items with
  | nil => simp [LegibleItems]
  | cons item items ih => simp [LegibleItems, ih]

/-! ## Scalars -/

theorem reads_null (depth : Nat) : Reads depth "null".toList .null :=
  Reads.of_scalar fun _ _ => rfl

theorem reads_bool (depth : Nat) (b : Bool) : Reads depth (toString b).toList (.bool b) := by
  cases b <;> exact Reads.of_scalar fun _ _ => rfl

theorem reads_quote (depth : Nat) (s : String) : Reads depth (quote s).toList (.str s) := by
  refine Reads.of_scalar fun rest _ => ?_
  have h := string_escaped s.toList rest
  rw [String.ofList_toList] at h
  rw [toList_quote]
  simp only [List.cons_append, List.append_assoc, List.nil_append]
  rw [scalar, h]
  rfl

theorem reads_number (depth : Nat) {n : Number} (hn : n.IsWord) :
    Reads depth n.text.toList (.num n) :=
  Reads.of_scalar fun _ hr => scalar_integer hn hr

/-! ## Blocks -/

/-- The characters that stand in front of a line. -/
def indent (depth : Nat) : List Char := '\n' :: List.replicate (2 * depth) ' '

theorem blank_indent (depth : Nat) : Blank (indent depth) := by
  intro c hc
  rcases List.mem_cons.mp hc with rfl | hc
  · rfl
  · rw [(List.mem_replicate.mp hc).2]
    rfl

/-- What stands in front of the bracket that closes a block. -/
def closing (depth : Nat) : List String → List Char
  | [] => []
  | _ :: _ => indent depth

theorem blank_closing (depth : Nat) (lines : List String) : Blank (closing depth lines) := by
  cases lines with
  | nil => intro c hc; simp [closing] at hc
  | cons line lines => exact blank_indent depth

theorem intercalate_cons (separator text : List Char) (texts : List (List Char)) :
    separator.intercalate (text :: texts) = text ++ texts.flatMap (separator ++ ·) := by
  induction texts generalizing text with
  | nil => simp
  | cons other texts ih => rw [List.intercalate_cons_cons, ih, List.flatMap_cons]; simp

/-- A block is its lines, each behind a line break and blanks. -/
theorem toList_block (opened closed : String) (depth : Nat) (lines : List String) :
    (block opened closed depth lines).toList =
      opened.toList ++ (joined (lines.map fun line => indent (depth + 1) ++ line.toList) ++
        (closing depth lines ++ closed.toList)) := by
  cases lines with
  | nil => simp [block, joined, closing]
  | cons line lines =>
    have hbreak : "\n".toList = ['\n'] := rfl
    have hcomma : ",\n".toList = [',', '\n'] := rfl
    simp only [block, String.toList_append, String.toList_intercalate, List.map_cons, List.map_map,
      intercalate_cons, hbreak, hcomma, String.toList_ofList, joined, closing, indent,
      List.flatMap_map, List.append_assoc, List.cons_append, List.nil_append, Function.comp_def]

/-! ## Values -/

mutual

/-- **The indented text of a value is read back**, in front of anything that ends a number. -/
theorem reads_indented : (v : Json) → (depth deepest : Nat) → v.Legible deepest →
    Reads deepest (v.indented depth).toList v.ordered
  | .null, _, deepest, _ => reads_null deepest
  | .bool b, _, deepest, _ => reads_bool deepest b
  | .num _, _, deepest, h => reads_number deepest h
  | .str s, _, deepest, _ => reads_quote deepest s
  -- the writer steps in for every list, the reader has one level less to go
  | .arr items, depth, deepest + 1, h => by
    have hitems := reads_indentedItems items (depth + 1) deepest h
    rw [indented, toList_block, ordered]
    exact reads_list hitems (blank_closing _ _)
  | .obj members, depth, deepest + 1, h => by
    have hmembers := reads_indentedMembers members (depth + 1) deepest h
    rw [indented, toList_block, ordered]
    exact reads_object hmembers (blank_closing _ _)

theorem reads_indentedItems : (items : List Json) → (depth deepest : Nat) →
    LegibleItems items deepest →
    List.Forall₂ (Reads deepest)
      ((indentedItems depth items).map fun line => indent depth ++ line.toList)
      (orderedItems items)
  | [], _, _, _ => .nil
  | item :: items, depth, deepest, h =>
    .cons ((reads_indented item depth deepest h.1).blank_append (blank_indent depth))
      (reads_indentedItems items depth deepest h.2)

theorem reads_indentedMembers : (members : List (String × Json)) → (depth deepest : Nat) →
    LegibleMembers members deepest →
    List.Forall₂ (ReadsMember deepest)
      ((indentedMembers depth members).map fun line => indent depth ++ line.toList)
      (orderedMembers members)
  | [], _, _, _ => .nil
  | (name, v) :: members, depth, deepest, h => by
    refine .cons ?_ (reads_indentedMembers members depth deepest h.2)
    have hv : Reads deepest ([' '] ++ (v.indented depth).toList) v.ordered :=
      (reads_indented v depth deepest h.1).blank_append (by rintro c ⟨⟩ <;> trivial)
    have hcolon : ": ".toList = [':', ' '] := rfl
    simp only [String.toList_append, hcolon, List.append_assoc]
    exact readsMember_of_reads (blank_indent depth) name hv

end

/-- **Reading a whole indented text** gives the value back, with the members of every object in
order of their names. -/
theorem read_indented {v : Json} (h : v.Legible maxDepth) :
    read .whole (v.indented 0 ++ "\n") = .ok v.ordered := by
  have hbreak : "\n".toList = ['\n'] := rfl
  have hread : readChars (v.indented 0 ++ "\n").toList = .ok v.ordered := by
    rw [String.toList_append, hbreak, readChars,
      reads_indented v 0 maxDepth h ['\n'] (by rintro c ⟨⟩; decide)]
    rfl
  simp only [read, hread]

end Pacts.Json
