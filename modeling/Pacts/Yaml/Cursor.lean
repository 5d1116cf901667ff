/-!
# Where a reader of YAML stands

YAML gives a meaning to lines and columns, so the reader keeps track of them.  A cursor is the text
that is left together with the number of characters passed, the line and the column, all counted
from zero.

There are five line breaks.  A carriage return with a line feed is one of them, and each of the
first three reads as a line feed.
-/

set_option autoImplicit false

namespace Pacts.Yaml

/-- What goes wrong with a YAML text. -/
abbrev Problem := String

/-- The text that is left, and the place where it starts. -/
structure Cursor where
  rest : List Char
  index : Nat
  line : Nat
  column : Nat
  deriving Repr

/-- Whether a character breaks a line. -/
def isBreak (c : Char) : Bool :=
  c == '\n' || c == '\r' || c.toNat == 0x85 || c.toNat == 0x2028 || c.toNat == 0x2029

/-- Whether a character is a blank inside a line. -/
def isBlank (c : Char) : Bool := c == ' ' || c == '\t'

/-- Whether a character may be part of the name of an anchor, a directive or a tag. -/
def isWordChar (c : Char) : Bool := c.isAlphanum || c == '_' || c == '-'

/-- Whether a character may be part of a YAML text. -/
def isAllowed (c : Char) : Bool :=
  let n := c.toNat
  n == 0x09 || n == 0x0A || n == 0x0D || (0x20 ≤ n && n ≤ 0x7E) || n == 0x85 ||
    (0xA0 ≤ n && n ≤ 0xFFFD) || 0x10000 ≤ n

namespace Cursor

/-- The cursor at the start of a text. -/
def start (cs : List Char) : Cursor := ⟨cs, 0, 0, 0⟩

/-- The character `n` places ahead. -/
def ahead? (c : Cursor) (n : Nat) : Option Char := c.rest[n]?

/-- The next character. -/
def next? (c : Cursor) : Option Char := c.rest.head?

/-- Whether the next character is the given one. -/
def at? (c : Cursor) (ch : Char) : Bool := c.next? == some ch

/-- Whether the text is at its end. -/
def atEnd (c : Cursor) : Bool := c.rest.isEmpty

/-- Whether `n` places ahead there is a blank, a line break or the end. -/
def gapAt (c : Cursor) (n : Nat) : Bool :=
  match c.ahead? n with
  | none => true
  | some ch => isBlank ch || isBreak ch

/-- Whether the next character is a blank. -/
def atBlank (c : Cursor) : Bool := c.next?.any isBlank

/-- Whether the next character is a line break. -/
def atBreak (c : Cursor) : Bool := c.next?.any isBreak

/-- Whether the line is at its end. -/
def atLineEnd (c : Cursor) : Bool := c.atEnd || c.atBreak

/-- The cursor `n` characters on in the same line. -/
def skip (c : Cursor) (n : Nat) : Cursor :=
  ⟨c.rest.drop n, c.index + n, c.line, c.column + n⟩

/-- The characters up to the first one outside a class, which does not hold line breaks, and the
cursor behind them. -/
def takeRun (c : Cursor) (p : Char → Bool) : List Char × Cursor :=
  let run := c.rest.takeWhile p
  (run, c.skip run.length)

/-- The cursor behind the characters of a class, which does not hold line breaks. -/
def skipRun (c : Cursor) (p : Char → Bool) : Cursor := (c.takeRun p).2

/-- The cursor behind the blanks in a line. -/
def skipBlanks (c : Cursor) : Cursor := c.skipRun isBlank

/-- The cursor behind a comment, if there is one. -/
def skipComment (c : Cursor) : Cursor := if c.at? '#' then c.skipRun (!isBreak ·) else c

/-- What a line break reads as, and the cursor behind it; without a line break, nothing. -/
def takeBreak (c : Cursor) : List Char × Cursor :=
  match c.rest with
  | '\r' :: '\n' :: rest => (['\n'], ⟨rest, c.index + 2, c.line + 1, 0⟩)
  | ch :: rest =>
    if isBreak ch then
      (if ch.toNat == 0x2028 || ch.toNat == 0x2029 then [ch] else ['\n'],
        ⟨rest, c.index + 1, c.line + 1, 0⟩)
    else ([], c)
  | [] => ([], c)

/-- The cursor behind a line break, if there is one. -/
def skipBreak (c : Cursor) : Cursor := c.takeBreak.2

/-- Whether a mark of a document, three times the given character, stands at the start of a line. -/
def atMark (c : Cursor) (ch : Char) : Bool :=
  c.column == 0 && c.rest.take 3 == [ch, ch, ch] && c.gapAt 3

/-- Whether any mark of a document stands here. -/
def atAnyMark (c : Cursor) : Bool := c.atMark '-' || c.atMark '.'

end Cursor

/-- The rest of a line that may hold nothing but blanks and a comment, with its line break. -/
def finishLine (c : Cursor) : Except Problem Cursor :=
  let c := c.skipBlanks.skipComment
  if c.atLineEnd then .ok c.skipBreak else .error "did not find expected comment or line break"

end Pacts.Yaml
