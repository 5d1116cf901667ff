import Pacts.Yaml.ScalarText
import Pacts.Yaml.Token

/-!
# YAML tokens from texts

The scanner takes one token after the other from the front of the text.  Two things are known only
later: that a key begins, which the colon behind it tells, and that a block begins, which its first
key or item tells.  So the scanner remembers, for every flow collection that is open and for the
block around them, the place among the tokens where a key may have begun, and puts the missing
tokens there when the colon comes.  A key of this kind stands in one line and is at most 1024
characters long.

The columns of the open blocks are kept as a stack.  A token further to the left than a block closes
the block.
-/

set_option autoImplicit false

namespace Pacts.Yaml

/-- A place where a key may have begun. -/
structure Candidate where
  /-- Whether it is an error when there is no key. -/
  required : Bool
  /-- The number of tokens in front of it. -/
  place : Nat
  index : Nat
  line : Nat
  column : Nat

/-- The state of the scanner. -/
structure Scan where
  cursor : Cursor
  /-- The tokens so far, last one first. -/
  tokens : List Token
  /-- The number of tokens so far. -/
  count : Nat
  /-- The column of the innermost open block; `-1` outside of all blocks. -/
  indent : Int
  /-- The columns of the blocks around it. -/
  outer : List Int
  /-- The candidate of the innermost flow collection, or of the block when none is open. -/
  candidate : Option Candidate
  /-- The candidates of the collections around it. -/
  outerCandidates : List (Option Candidate)
  /-- Whether a key may begin here. -/
  keyAllowed : Bool

namespace Scan

/-- The state at the start of a text. -/
def start (cs : List Char) : Scan :=
  { cursor := .start cs, tokens := [], count := 0, indent := -1, outer := [], candidate := none
    outerCandidates := [], keyAllowed := true }

/-- Whether a flow collection is open. -/
def inFlow (s : Scan) : Bool := !s.outerCandidates.isEmpty

/-- Adds a token. -/
def push (s : Scan) (t : Token) : Scan := { s with tokens := t :: s.tokens, count := s.count + 1 }

/-- Adds a token at a place among the tokens. -/
def insert (s : Scan) (place : Nat) (t : Token) : Scan :=
  let behind := s.count - place
  { s with tokens := s.tokens.take behind ++ t :: s.tokens.drop behind, count := s.count + 1 }

/-- Goes on behind `n` characters. -/
def skip (s : Scan) (n : Nat) : Scan := { s with cursor := s.cursor.skip n }

/-- Says whether a key may begin here. -/
def allow (s : Scan) (allowed : Bool) : Scan := { s with keyAllowed := allowed }

/-! ## Blocks -/

/-- Opens a block at a column, unless the innermost block is as far to the right.  Its token goes to
the given place. -/
def openBlock (s : Scan) (column : Nat) (place : Nat) (t : Token) : Scan :=
  if s.inFlow then s
  else if s.indent < column then
    { s with indent := column, outer := s.indent :: s.outer }.insert place t
  else s

/-- Closes the blocks to the right of a column. -/
def closeBlocks (column : Int) (s : Scan) : Scan :=
  if s.inFlow then s else go s.outer s
where
  /-- Closes one block after the other; the first argument is the stack that is left. -/
  go : List Int → Scan → Scan
    | [], s => { s with outer := [] }
    | i :: outer, s =>
      if column < s.indent then go outer ({ s with indent := i }.push .blockEnd)
      else { s with outer := i :: outer }

/-! ## Candidates -/

/-- Gives up a candidate that is no longer possible. -/
def drop (s : Scan) : Except Problem Scan :=
  match s.candidate with
  | some k => if k.required then .error "could not find expected ':'"
    else .ok { s with candidate := none }
  | none => .ok s

/-- Remembers that a key may begin here. -/
def remember (s : Scan) : Except Problem Scan :=
  if s.keyAllowed then do
    let c := s.cursor
    let required := !s.inFlow && s.indent == (c.column : Int)
    let s ← s.drop
    return { s with candidate := some ⟨required, s.count, c.index, c.line, c.column⟩ }
  else .ok s

/-- Whether a candidate is too far behind. -/
def isStale (c : Cursor) (k : Candidate) : Bool := k.line < c.line || k.index + 1024 < c.index

/-- Gives up the candidates that are too far behind. -/
def dropStale (s : Scan) : Except Problem Scan := do
  let check : Option Candidate → Except Problem (Option Candidate) := fun
    | some k =>
      if isStale s.cursor k then
        if k.required then .error "could not find expected ':'" else .ok none
      else .ok (some k)
    | none => .ok none
  let candidate ← check s.candidate
  let outerCandidates ← s.outerCandidates.mapM check
  return { s with candidate, outerCandidates }

/-! ## The way to the next token -/

/-- The cursor after a byte order mark that starts its line. -/
def skipMark (c : Cursor) : Cursor :=
  if c.column = 0 ∧ c.next?.any (·.toNat == 0xFEFF) then c.skip 1 else c

/-- Passes byte order marks at the start of a line, blanks, comments and line breaks. -/
def passSpace : (fuel : Nat) → Scan → Scan
  | 0, s => s
  | fuel + 1, s =>
    let tabs := s.inFlow || !s.keyAllowed
    let c := skipMark s.cursor
    let c := (c.skipRun fun ch => ch == ' ' || (tabs && ch == '\t')).skipComment
    if c.atBreak then
      passSpace fuel { s with cursor := c.skipBreak, keyAllowed := s.keyAllowed || !s.inFlow }
    else { s with cursor := c }

/-! ## Directives -/

/-- A number of at most nine digits. -/
def takeNumber (c : Cursor) : Except Problem (Nat × Cursor) :=
  let (digits, c) := c.takeRun Char.isDigit
  if digits.isEmpty then .error "did not find expected version number"
  else if 9 < digits.length then .error "found extremely long version number"
  else .ok (digits.foldl (fun n d => n * 10 + (d.toNat - 48)) 0, c)

/-- A handle of tags: `!`, or word characters between two of them.  Without the second one it must
be all there is, if it is part of a directive. -/
def takeHandle (directive : Bool) (c : Cursor) : Except Problem (String × Cursor) :=
  if c.at? '!' then
    let (word, c) := (c.skip 1).takeRun isWordChar
    if c.at? '!' then .ok (String.ofList ('!' :: word ++ ['!']), c.skip 1)
    else if directive ∧ !word.isEmpty then .error "did not find expected '!'"
    else .ok (String.ofList ('!' :: word), c)
  else .error "did not find expected '!'"

/-- Whether a character may be part of a tag. -/
def isTagChar (verbatim : Bool) (c : Char) : Bool :=
  isWordChar c || ";/?:@&=+$.!~*'()%".toList.contains c ||
    (verbatim && (c == ',' || c == '[' || c == ']'))

/-- The number of bytes of a character by its first byte. -/
def byteWidth? (b : Nat) : Option Nat :=
  if b < 0x80 then some 1
  else if 0xC0 ≤ b ∧ b < 0xE0 then some 2
  else if 0xE0 ≤ b ∧ b < 0xF0 then some 3
  else if 0xF0 ≤ b ∧ b < 0xF8 then some 4
  else none

/-- Replaces the escaped bytes in a tag by characters of the same codes.  `due` is the number of
bytes that a character that has begun still needs. -/
def unescapeTag : (due : Nat) → List Char → Except Problem (List Char)
  | due, '%' :: a :: b :: cs =>
    match Json.hexValue? a, Json.hexValue? b with
    | some x, some y =>
      let byte := x * 16 + y
      if due = 0 then
        match byteWidth? byte with
        | some width => return Char.ofNat byte :: (← unescapeTag (width - 1) cs)
        | none => .error "found an incorrect leading UTF-8 octet"
      else if 0x80 ≤ byte ∧ byte < 0xC0 then
        return Char.ofNat byte :: (← unescapeTag (due - 1) cs)
      else .error "found an incorrect trailing UTF-8 octet"
    | _, _ => .error "did not find URI escaped octet"
  | _, '%' :: _ => .error "did not find URI escaped octet"
  | 0, c :: cs => return c :: (← unescapeTag 0 cs)
  | _ + 1, _ :: _ => .error "did not find URI escaped octet"
  | 0, [] => .ok []
  | _ + 1, [] => .error "did not find URI escaped octet"

/-- The characters of a tag. -/
def takeTagText (verbatim : Bool) (c : Cursor) : Except Problem (String × Cursor) := do
  let (raw, c) := c.takeRun (isTagChar verbatim)
  return (String.ofList (← unescapeTag 0 raw), c)

/-- The token of a directive, from behind its percent sign. -/
def takeDirective (c : Cursor) : Except Problem (Token × Cursor) := do
  let (name, c) := c.takeRun isWordChar
  if name.isEmpty then throw "could not find expected directive name"
  if !c.gapAt 0 then throw "found unexpected non-alphabetical character"
  if name = "YAML".toList then
    let (major, c) ← takeNumber c.skipBlanks
    if !c.at? '.' then throw "did not find expected digit or '.' character"
    let (minor, c) ← takeNumber (c.skip 1)
    return (.version major minor, c)
  else if name = "TAG".toList then
    let (handle, c) ← takeHandle true c.skipBlanks
    if !c.atBlank then throw "did not find expected whitespace"
    let (expansion, c) ← takeTagText true c.skipBlanks
    if expansion.isEmpty then throw "did not find expected tag URI"
    if !c.gapAt 0 then throw "did not find expected whitespace or line break"
    return (.handle handle expansion, c)
  else throw "found unknown directive name"

/-! ## Anchors and tags -/

/-- The name of an anchor, from behind its sign. -/
def takeName (c : Cursor) : Except Problem (String × Cursor) :=
  let (name, c) := c.takeRun isWordChar
  if !name.isEmpty ∧ (c.gapAt 0 ∨ c.next?.any ("?:,]\x7d%@`".toList.contains ·)) then
    .ok (String.ofList name, c)
  else .error "did not find expected alphabetic or numeric character"

/-- The token of a tag. -/
def takeTag (flow : Bool) (c : Cursor) : Except Problem (Token × Cursor) := do
  let (token, c) ←
    if c.ahead? 1 = some '<' then do
      let (suffix, c) ← takeTagText true (c.skip 2)
      if suffix.isEmpty then throw "did not find expected tag URI"
      if !c.at? '>' then throw "did not find the expected '>'"
      pure (Token.tag "" suffix, c.skip 1)
    else do
      let (handle, c) ← takeHandle false c
      let (suffix, c) ← takeTagText false c
      if 1 < handle.length ∧ handle.toList.getLast? = some '!' then
        if suffix.isEmpty then throw "did not find expected tag URI"
        pure (Token.tag handle suffix, c)
      else
        let suffix := String.ofList (handle.toList.drop 1) ++ suffix
        pure (if suffix.isEmpty then Token.tag "" "!" else Token.tag "!" suffix, c)
  if (flow ∧ c.at? ',') ∨ c.gapAt 0 then return (token, c)
  else throw "did not find expected whitespace or line break"

/-! ## Tokens -/

/-- Takes the mark of a document. -/
def documentMark (s : Scan) (t : Token) : Except Problem Scan := do
  let s ← (s.closeBlocks (-1)).drop
  return ((s.allow false).skip 3).push t

/-- Takes a directive. -/
def directive (s : Scan) : Except Problem Scan := do
  let s ← (s.closeBlocks (-1)).drop
  let (t, c) ← takeDirective (s.cursor.skip 1)
  let c ← finishLine c
  return { s.allow false with cursor := c }.push t

/-- Takes the bracket that opens a flow collection. -/
def openFlow (s : Scan) (t : Token) : Except Problem Scan := do
  let s ← s.remember
  let s := { s with candidate := none, outerCandidates := s.candidate :: s.outerCandidates }
  return ((s.allow true).skip 1).push t

/-- Takes the bracket that closes a flow collection. -/
def closeFlow (s : Scan) (t : Token) : Except Problem Scan := do
  let s ← s.drop
  let s := match s.outerCandidates with
    | [] => s
    | k :: ks => { s with candidate := k, outerCandidates := ks }
  return ((s.allow false).skip 1).push t

/-- Takes the comma in a flow collection. -/
def comma (s : Scan) : Except Problem Scan := do
  let s ← s.drop
  return ((s.allow true).skip 1).push .comma

/-- Takes the dash of an item. -/
def item (s : Scan) : Except Problem Scan := do
  if !s.inFlow ∧ !s.keyAllowed then
    throw "block sequence entries are not allowed in this context"
  let s ← (s.openBlock s.cursor.column s.count .blockSequence).drop
  return ((s.allow true).skip 1).push .item

/-- Takes the question mark of a key. -/
def key (s : Scan) : Except Problem Scan := do
  if !s.inFlow ∧ !s.keyAllowed then throw "mapping keys are not allowed in this context"
  let s ← (s.openBlock s.cursor.column s.count .blockMapping).drop
  return ((s.allow !s.inFlow).skip 1).push .key

/-- Takes the colon of a value. -/
def value (s : Scan) : Except Problem Scan :=
  match s.candidate with
  | some k =>
    let s := (s.insert k.place .key).openBlock k.column k.place .blockMapping
    .ok ((({ s with candidate := none }.allow false).skip 1).push .value)
  | none => do
    if !s.inFlow ∧ !s.keyAllowed then throw "mapping values are not allowed in this context"
    let s := s.openBlock s.cursor.column s.count .blockMapping
    return ((s.allow !s.inFlow).skip 1).push .value

/-- Takes a token that may begin a key. -/
def mayBeKey (s : Scan) (take : Cursor → Except Problem (Token × Cursor)) :
    Except Problem Scan := do
  let s ← s.remember
  let (t, c) ← take s.cursor
  return { s.allow false with cursor := c }.push t

/-- Takes a block scalar. -/
def block (s : Scan) (style : Style) : Except Problem Scan := do
  let s ← s.drop
  let (text, c) ← takeBlock (style = .literal) s.indent s.cursor
  return { s.allow true with cursor := c }.push (.scalar style text)

/-- Takes a plain scalar. -/
def plain (s : Scan) : Except Problem Scan := do
  let s ← s.remember
  let (text, behindBreak, c) ← takePlain s.inFlow s.indent s.cursor
  return { s.allow behindBreak with cursor := c }.push (.scalar .plain text)

/-- The characters that a plain scalar does not begin with. -/
def isIndicator (c : Char) : Bool := "-?:,[]\x7b\x7d#&*!|>'\"%@`".toList.contains c

/-- Whether a plain scalar begins here. -/
def beginsPlain (flow : Bool) (c : Cursor) (ch : Char) : Bool :=
  !(isBlank ch || isBreak ch || isIndicator ch) || (ch == '-' && !(c.ahead? 1).any isBlank) ||
    (!flow && (ch == '?' || ch == ':') && !c.gapAt 1)

/-- Takes the token that begins with a character. -/
def token (s : Scan) (ch : Char) : Except Problem Scan :=
  let c := s.cursor
  if c.column = 0 ∧ ch = '%' then s.directive
  else if c.atMark '-' then s.documentMark .documentStart
  else if c.atMark '.' then s.documentMark .documentEnd
  else if ch = '[' then s.openFlow .flowSequence
  else if ch = '{' then s.openFlow .flowMapping
  else if ch = ']' then s.closeFlow .flowSequenceEnd
  else if ch = '}' then s.closeFlow .flowMappingEnd
  else if ch = ',' then s.comma
  else if ch = '-' ∧ c.gapAt 1 then s.item
  else if ch = '?' ∧ (s.inFlow ∨ c.gapAt 1) then s.key
  else if ch = ':' ∧ (s.inFlow ∨ c.gapAt 1) then s.value
  else if ch = '*' then s.mayBeKey fun c => do
    let (name, c) ← takeName (c.skip 1)
    return (.alias name, c)
  else if ch = '&' then s.mayBeKey fun c => do
    let (name, c) ← takeName (c.skip 1)
    return (.anchor name, c)
  else if ch = '!' then s.mayBeKey (takeTag s.inFlow)
  else if ch = '|' ∧ !s.inFlow then s.block .literal
  else if ch = '>' ∧ !s.inFlow then s.block .folded
  else if ch = '\'' then s.mayBeKey fun c => do
    let (text, c) ← takeQuoted true c
    return (.scalar .singleQuoted text, c)
  else if ch = '"' then s.mayBeKey fun c => do
    let (text, c) ← takeQuoted false c
    return (.scalar .doubleQuoted text, c)
  else if beginsPlain s.inFlow c ch then s.plain
  else .error "found character that cannot start any token"

/-- Takes all the tokens. -/
def all : (fuel : Nat) → Scan → Except Problem (List Token)
  | 0, _ => .error "found character that cannot start any token"
  | fuel + 1, s => do
    let s ← (s.passSpace (s.cursor.rest.length + 1)).dropStale
    let s := s.closeBlocks s.cursor.column
    match s.cursor.rest with
    | [] =>
      let s ← (s.closeBlocks (-1)).drop
      return s.tokens.reverse
    | ch :: _ => all fuel (← s.token ch)

end Scan

/-- A text without a byte order mark in front of it. -/
def withoutMark (cs : List Char) : List Char :=
  if cs.head?.any (·.toNat == 0xFEFF) then cs.drop 1 else cs

/-- The tokens of a text.  A byte order mark in front of it does not count. -/
def tokens (text : String) : Except Problem (List Token) :=
  let cs := withoutMark text.toList
  if cs.all isAllowed then (Scan.start cs).all (cs.length + 1)
  else .error "control characters are not allowed"

end Pacts.Yaml
