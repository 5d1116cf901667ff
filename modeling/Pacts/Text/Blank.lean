/-!
# Blank characters

The characters that count as white space at the ends of a name, a key or a setting: the property
`White_Space` of the Unicode standard.  `trim` takes them off both ends of a text, and
`isBlankText` says that nothing else is left.

`trim` is written with two `dropWhile`s, so what it does to the ends can be read off the library's
lemmas on `dropWhile`.
-/

set_option autoImplicit false

namespace Pacts.Text

/-- The 25 characters with the property `White_Space`. -/
def isBlank (c : Char) : Bool :=
  let n := c.toNat
  (0x09 ≤ n && n ≤ 0x0D) || n == 0x20 || n == 0x85 || n == 0xA0 || n == 0x1680 ||
    (0x2000 ≤ n && n ≤ 0x200A) || n == 0x2028 || n == 0x2029 || n == 0x202F || n == 0x205F ||
    n == 0x3000

/-- What is left of a text once the blanks in front are gone. -/
def trimLeft (cs : List Char) : List Char := cs.dropWhile isBlank

/-- What is left of a text once the blanks at its end are gone. -/
def trimRight (cs : List Char) : List Char := (cs.reverse.dropWhile isBlank).reverse

/-- A text without the blanks at its two ends. -/
def trim (cs : List Char) : List Char := trimRight (trimLeft cs)

/-- A text that holds blanks only; the empty text is one. -/
def isBlankText (cs : List Char) : Bool := cs.all isBlank

theorem trimLeft_of_head {c : Char} {cs : List Char} (h : isBlank c = false) :
    trimLeft (c :: cs) = c :: cs := by
  simp [trimLeft, List.dropWhile, h]

end Pacts.Text

namespace Pacts

/-- A string without the blanks at its two ends. -/
def trimmed (s : String) : String := String.ofList (Text.trim s.toList)

/-- A string that holds blanks only; the empty string is one. -/
def isBlankString (s : String) : Bool := Text.isBlankText s.toList

end Pacts
