import Pacts.Json.Reader
import Pacts.Yaml.Cursor

/-!
# The texts of scalars

A scalar is written plainly, between quotes, or as a block of indented lines.  A line break inside a
plain or quoted scalar, together with the blanks around it, reads as one blank, and more line breaks
in a row read as one line break less.  `Fold` holds what was passed since the last character that
counts and gives what it reads as.

The loops run on the length of the text that is left; every step takes at least one character.
-/

set_option autoImplicit false

namespace Pacts.Yaml

/-! ## Folding -/

/-- What was passed since the last character that counts. -/
structure Fold where
  /-- The blanks in front of the first line break. -/
  blanks : List Char
  /-- The first line break, once it was met; an escaped line break reads as nothing. -/
  first : Option (List Char)
  /-- The line breaks behind the first one. -/
  others : List Char

namespace Fold

/-- Nothing was passed. -/
def none : Fold := ⟨[], .none, []⟩

/-- Whether a line break was passed. -/
def hasBreak (f : Fold) : Bool := f.first.isSome

/-- What the passed characters read as. -/
def text (f : Fold) : List Char :=
  match f.first with
  | .none => f.blanks
  | some first =>
    if first.head? = some '\n' then
      if f.others.isEmpty then [' '] else f.others
    else first ++ f.others

/-- One more blank. -/
def addBlank (f : Fold) (c : Char) : Fold :=
  if f.hasBreak then f else { f with blanks := f.blanks ++ [c] }

/-- One more line break. -/
def addBreak (f : Fold) (text : List Char) : Fold :=
  match f.first with
  | .none => { f with blanks := [], first := some text }
  | some _ => { f with others := f.others ++ text }

end Fold

/-- Passes blanks and line breaks.  `bar` tells at which blanks this is not allowed. -/
def passGaps (bar : Fold → Cursor → Bool) : (fuel : Nat) → Fold → Cursor →
    Except Problem (Fold × Cursor)
  | 0, f, c => .ok (f, c)
  | fuel + 1, f, c =>
    if c.atBlank then
      if bar f c then .error "found a tab character that violates indentation"
      else passGaps bar fuel (f.addBlank (c.next?.getD ' ')) (c.skip 1)
    else if c.atBreak then
      let (text, c) := c.takeBreak
      passGaps bar fuel (f.addBreak text) c
    else .ok (f, c)

/-! ## Quoted scalars -/

/-- What the letter of an escape stands for. -/
def escapeValue? (c : Char) : Option Nat :=
  match c with
  | '0' => some 0x00
  | 'a' => some 0x07
  | 'b' => some 0x08
  | 't' => some 0x09
  | '\t' => some 0x09
  | 'n' => some 0x0A
  | 'v' => some 0x0B
  | 'f' => some 0x0C
  | 'r' => some 0x0D
  | 'e' => some 0x1B
  | ' ' => some 0x20
  | '"' => some 0x22
  | '/' => some 0x2F
  | '\\' => some 0x5C
  | 'N' => some 0x85
  | '_' => some 0xA0
  | 'L' => some 0x2028
  | 'P' => some 0x2029
  | _ => none

/-- The number of hexadecimal digits behind the letter of an escape. -/
def escapeDigits? (c : Char) : Option Nat :=
  match c with
  | 'x' => some 2
  | 'u' => some 4
  | 'U' => some 8
  | _ => none

/-- The character of an escape, and the cursor behind it. -/
def takeEscape (c : Cursor) : Except Problem (Char × Cursor) :=
  match c.ahead? 1 with
  | none => .error "found unknown escape character"
  | some letter =>
    match escapeValue? letter, escapeDigits? letter with
    | some value, _ => .ok (Char.ofNat value, c.skip 2)
    | none, some count =>
      let digits := (c.rest.drop 2).take count
      if digits.length = count ∧ digits.all fun d => (Json.hexValue? d).isSome then
        let value := digits.foldl (fun n d => n * 16 + (Json.hexValue? d).getD 0) 0
        if (0xD800 ≤ value ∧ value ≤ 0xDFFF) ∨ 0x10FFFF < value then
          .error "found invalid Unicode character escape code"
        else .ok (Char.ofNat value, c.skip (2 + count))
      else .error "did not find expected hexdecimal number"
    | none, none => .error "found unknown escape character"

/-- A quoted scalar, from behind its opening quote.  `soFar` holds what was read, last character
first. -/
def quotedFrom (single : Bool) : (fuel : Nat) → (soFar : List Char) → Cursor →
    Except Problem (String × Cursor)
  | 0, _, _ => .error "found unexpected end of stream"
  | fuel + 1, soFar, c =>
    let quote := if single then '\'' else '"'
    if c.atAnyMark then .error "found unexpected document indicator"
    else match c.rest with
    | [] => .error "found unexpected end of stream"
    | ch :: rest =>
      if single ∧ ch = '\'' ∧ rest.head? = some '\'' then
        quotedFrom single fuel ('\'' :: soFar) (c.skip 2)
      else if ch = quote then .ok (String.ofList soFar.reverse, c.skip 1)
      else if !single ∧ ch = '\\' ∧ rest.head?.any isBreak then do
        -- the line break itself reads as nothing
        let (fold, c) ← passGaps (fun _ _ => false) rest.length ⟨[], some [], []⟩
          (c.skip 1).skipBreak
        quotedFrom single fuel (fold.text.reverse ++ soFar) c
      else if !single ∧ ch = '\\' then do
        let (value, c) ← takeEscape c
        quotedFrom single fuel (value :: soFar) c
      else if isBlank ch ∨ isBreak ch then do
        let (fold, c) ← passGaps (fun _ _ => false) (rest.length + 1) .none c
        quotedFrom single fuel (fold.text.reverse ++ soFar) c
      else quotedFrom single fuel (ch :: soFar) (c.skip 1)

/-- A quoted scalar. -/
def takeQuoted (single : Bool) (c : Cursor) : Except Problem (String × Cursor) :=
  quotedFrom single (c.rest.length + 1) [] (c.skip 1)

/-! ## Plain scalars -/

/-- Whether a character ends a plain scalar inside a flow collection. -/
def endsFlowScalar (c : Char) : Bool :=
  c == ',' || c == '[' || c == ']' || c == '{' || c == '}'

/-- A plain scalar, from a place where a character that counts, or its end, is expected.  `fold` is
what was passed in front of it.  Returns whether line breaks were passed behind the scalar. -/
def plainFrom (flow : Bool) (indent : Int) : (fuel : Nat) → Fold → (soFar : List Char) → Cursor →
    Except Problem (String × Bool × Cursor)
  | 0, fold, soFar, c => .ok (String.ofList soFar.reverse, fold.hasBreak, c)
  | fuel + 1, fold, soFar, c =>
    match c.rest with
    | [] => finish fold soFar c
    | ch :: rest =>
      if isBlank ch ∨ isBreak ch then do
        let bar := fun (f : Fold) (c : Cursor) =>
          f.hasBreak && (c.column : Int) < indent && c.at? '\t'
        let (fold, c) ← passGaps bar (rest.length + 1) fold c
        if !flow ∧ (c.column : Int) < indent then finish fold soFar c
        else if c.atAnyMark ∨ c.at? '#' then finish fold soFar c
        else plainFrom flow indent fuel fold soFar c
      else if flow ∧ ch = ':' ∧ rest.head?.any (fun d => d == '?' || endsFlowScalar d) then
        .error "found unexpected ':'"
      else if (ch = ':' ∧ c.gapAt 1) ∨ (flow ∧ endsFlowScalar ch) then finish fold soFar c
      else plainFrom flow indent fuel .none (ch :: (fold.text.reverse ++ soFar)) (c.skip 1)
where
  /-- The scalar that was read. -/
  finish (fold : Fold) (soFar : List Char) (c : Cursor) :
      Except Problem (String × Bool × Cursor) :=
    .ok (String.ofList soFar.reverse, fold.hasBreak, c)

/-- A plain scalar in a block of the given indentation.  Returns whether line breaks were passed
behind it. -/
def takePlain (flow : Bool) (indent : Int) (c : Cursor) : Except Problem (String × Bool × Cursor) :=
  plainFrom flow (indent + 1) (2 * c.rest.length + 1) .none [] c

/-! ## Block scalars -/

/-- What happens to the line breaks at the end of a block. -/
inductive Chomping where
  | strip
  | clip
  | keep
  deriving DecidableEq

/-- The chomping that a character stands for. -/
def chomping? : Option Char → Option Chomping
  | some '+' => some .keep
  | some '-' => some .strip
  | _ => none

/-- The indentation that a character stands for. -/
def indentation? : Option Char → Option (Except Problem Nat)
  | some ch =>
    if ch = '0' then some (.error "found an indentation indicator equal to 0")
    else if ch.isDigit then some (.ok (ch.toNat - 48)) else none
  | none => none

/-- The chomping and the indentation in the head of a block, in either order. -/
def takeBlockHead (c : Cursor) : Except Problem (Chomping × Option Nat × Cursor) :=
  match chomping? c.next?, indentation? c.next? with
  | some chomping, _ =>
    match indentation? (c.ahead? 1) with
    | none => .ok (chomping, none, c.skip 1)
    | some (.ok n) => .ok (chomping, some n, c.skip 2)
    | some (.error e) => .error e
  | none, some (.ok n) =>
    match chomping? (c.ahead? 1) with
    | some chomping => .ok (chomping, some n, c.skip 2)
    | none => .ok (.clip, some n, c.skip 1)
  | none, some (.error e) => .error e
  | none, none => .ok (.clip, none, c)

/-- Passes the indentation and the empty lines in front of a line.  The indentation of the block is
zero as long as it is not known.  Returns the line breaks and the deepest column. -/
def passEmptyLines (indent : Nat) : (fuel : Nat) → (deepest : Nat) → (breaks : List Char) →
    Cursor → Except Problem (Nat × List Char × Cursor)
  | 0, deepest, breaks, c => .ok (deepest, breaks, c)
  | fuel + 1, deepest, breaks, c =>
    let spaces := (c.takeRun (· == ' ')).1.length
    let c := c.skip (if indent = 0 then spaces else min spaces (indent - c.column))
    let deepest := max deepest c.column
    if (indent = 0 ∨ c.column < indent) ∧ c.at? '\t' then
      .error "found a tab character where an indentation space is expected"
    else if c.atBreak then
      let (text, c) := c.takeBreak
      passEmptyLines indent fuel deepest (breaks ++ text) c
    else .ok (deepest, breaks, c)

/-- The lines of a block.  `lead` is the line break of the line in front, `breaks` the empty lines
since then, and `leadBlank` tells whether that line started with a blank. -/
def blockLines (literal : Bool) (indent : Nat) : (fuel : Nat) → (soFar lead breaks : List Char) →
    (leadBlank : Bool) → Cursor → Except Problem (List Char × List Char × List Char × Cursor)
  | 0, soFar, lead, breaks, _, c => .ok (soFar, lead, breaks, c)
  | fuel + 1, soFar, lead, breaks, leadBlank, c =>
    if c.column = indent ∧ !c.atEnd then do
      let blank := c.atBlank
      let joint :=
        if !literal ∧ lead.head? = some '\n' ∧ !leadBlank ∧ !blank then
          if breaks.isEmpty then [' '] else []
        else lead
      let (line, c) := c.takeRun (!isBreak ·)
      let (lead, c) := c.takeBreak
      let soFar := line.reverse ++ (breaks.reverse ++ (joint.reverse ++ soFar))
      let (_, breaks, c) ← passEmptyLines indent (c.rest.length + 1) 0 [] c
      blockLines literal indent fuel soFar lead breaks blank c
    else .ok (soFar, lead, breaks, c)

/-- A block scalar inside a block of the given indentation. -/
def takeBlock (literal : Bool) (parent : Int) (c : Cursor) : Except Problem (String × Cursor) := do
  let (chomping, increment, c) ← takeBlockHead (c.skip 1)
  let c ← finishLine c
  let known := match increment with
    | some n => if 0 ≤ parent then parent.toNat + n else n
    | none => 0
  let (deepest, breaks, c) ← passEmptyLines known (c.rest.length + 1) 0 [] c
  let indent := if known = 0 then max (max deepest (parent + 1).toNat) 1 else known
  let (soFar, lead, breaks, c) ←
    blockLines literal indent (c.rest.length + 1) [] [] breaks false c
  let tail := match chomping with
    | .strip => []
    | .clip => lead
    | .keep => lead ++ breaks
  return (String.ofList (soFar.reverse ++ tail), c)

end Pacts.Yaml
