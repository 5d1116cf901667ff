import Pacts.Text.Accents
import Pacts.Text.MarkOrder

/-!
# One way to write a text

The same letters with the same accents can be written in several ways: accents may stand on their
own or on their letters, and in different orders.  `composed` chooses one of them.  It takes all
accents off their letters, brings them in order, and puts them back on, each on the letter in front
of it unless another accent at the same place is in between.
-/

set_option autoImplicit false

namespace Pacts.Text

/-- The number of accents that one character shows at most. -/
def mostAccents : Nat := 3

/-- A character as its letter with at most `most` accents behind it. -/
def takenApart (most : Nat) (c : Char) : List Char :=
  match most, parted? c with
  | most + 1, some (letter, accent) => takenApart most letter ++ [accent]
  | _, _ => [c]

/-- Whether nothing keeps a mark from the letter that the marks `between` hang on. -/
def reaches (mark : Char) (between : List Char) : Bool :=
  between.getLast?.all fun c => markClass c < markClass mark

/-- A text with accents put on their letters.  In front of it are a letter and, behind the letter,
the marks that could not be put on it. -/
def putTogetherFrom (letter : Char) (between : List Char) : List Char → List Char
  | [] => letter :: between
  | c :: cs =>
    match if reaches c between then joined? letter c else none with
    | some both => putTogetherFrom both between cs
    | none =>
      if markClass c = 0 then letter :: between ++ putTogetherFrom c [] cs
      else putTogetherFrom letter (between ++ [c]) cs

/-- A text with accents put on their letters. -/
def putTogether : List Char → List Char
  | [] => []
  | c :: cs => putTogetherFrom c [] cs

/-- The one way to write a text. -/
def composed (cs : List Char) : List Char :=
  putTogether (orderMarks (cs.flatMap (takenApart mostAccents)))

end Pacts.Text
