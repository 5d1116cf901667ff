import Pacts.Proofs.Json.Layout

/-!
# What a JSON text is

The texts of JSON and what they stand for, said without a reader: which characters may stand between
quotes and what an escape stands for, how a number is written, and how lists and objects are put
together, with blanks wherever they may stand.

Three things set bounds to what can be held in memory, and `Spells` says no more than these bounds
allow.  Lists and objects are nested only so deep.  An escape by number has to stand for a
character, so the two halves of a pair come together.  A number has to be in the range of binary
numbers; which of them it is rounded to is left to the reader of the number alone.

That the reader takes exactly these texts is shown in `Pacts.Proofs.Json.Acceptance`, and which
numbers are in range, told by what their digits stand for, in `Pacts.Proofs.Json.Range`.
-/

set_option autoImplicit false

namespace Pacts.Json

/-! ## Texts between quotes -/

/-- Four hexadecimal digits and their number. -/
inductive Hex : List Char → Nat → Prop
  | four {a b c d : Char} {w x y z : Nat} (ha : hexValue? a = some w) (hb : hexValue? b = some x)
      (hc : hexValue? c = some y) (hd : hexValue? d = some z) :
      Hex [a, b, c, d] (((w * 16 + x) * 16 + y) * 16 + z)

/-- The characters that have an escape of one letter, each behind its letter. -/
def letterEscapes : List (Char × Char) :=
  [('"', '"'), ('\\', '\\'), ('/', '/'), ('b', Char.ofNat 0x08), ('f', Char.ofNat 0x0C),
    ('n', '\n'), ('r', '\r'), ('t', '\t')]

/-- What stands behind a backslash, and the character that is meant. -/
inductive Escape : List Char → Char → Prop
  | letter {e c : Char} (h : (e, c) ∈ letterEscapes) : Escape [e] c
  | number {ds : List Char} {n : Nat} (h : Hex ds n) (hn : n < 0xD800 ∨ 0xDFFF < n) :
      Escape ('u' :: ds) (Char.ofNat n)
  | pair {hs ls : List Char} {high low : Nat} (hh : Hex hs high) (hl : Hex ls low)
      (hhigh : 0xD800 ≤ high ∧ high ≤ 0xDBFF) (hlow : 0xDC00 ≤ low ∧ low ≤ 0xDFFF) :
      Escape ('u' :: (hs ++ '\\' :: 'u' :: ls))
        (Char.ofNat (0x10000 + (high - 0xD800) * 0x400 + (low - 0xDC00)))

/-- What stands between quotes, and the characters that are meant. -/
inductive Chars : List Char → List Char → Prop
  | nil : Chars [] []
  | plain {c : Char} {text cs : List Char} (control : ¬c.toNat < 0x20) (quote : c ≠ '"')
      (backslash : c ≠ '\\') (h : Chars text cs) : Chars (c :: text) (c :: cs)
  | escape {e : List Char} {c : Char} {text cs : List Char} (he : Escape e c) (h : Chars text cs) :
      Chars ('\\' :: (e ++ text)) (c :: cs)

/-! ## Numbers -/

/-- Only digits. -/
def Digits (ds : List Char) : Prop := ∀ d ∈ ds, d.isDigit = true

/-- An exponent, from behind its letter. -/
inductive Power : List Char → Prop
  | digits {sign : List Char} {d : Char} {ds : List Char} (hs : sign ∈ [[], ['+'], ['-']])
      (h : Digits (d :: ds)) : Power (sign ++ d :: ds)

/-- The exponent of a number, or nothing. -/
inductive Exponent : List Char → Prop
  | none : Exponent []
  | some {e : Char} {text : List Char} (he : e ∈ ['e', 'E']) (h : Power text) : Exponent (e :: text)

/-- What may follow the digits in front of the point. -/
inductive Tail : List Char → Prop
  | whole {text : List Char} (h : Exponent text) : Tail text
  | point {d : Char} {ds text : List Char} (hd : Digits (d :: ds)) (h : Exponent text) :
      Tail ('.' :: (d :: ds ++ text))

/-- A number without a sign.  It starts with a zero only if nothing else stands in front of the
point. -/
inductive Unsigned : List Char → Prop
  | zero {text : List Char} (h : Tail text) : Unsigned ('0' :: text)
  | digits {d : Char} {ds text : List Char} (hne : d ≠ '0') (hd : Digits (d :: ds))
      (h : Tail text) : Unsigned (d :: ds ++ text)

/-- A number with or without a sign. -/
inductive Numeral : List Char → Prop
  | plain {text : List Char} (h : Unsigned text) : Numeral text
  | minus {text : List Char} (h : Unsigned text) : Numeral ('-' :: text)

/-! ## Values -/

/-- A value that is neither a list nor an object, and how it is written. -/
inductive Scalar : List Char → Json → Prop
  | null : Scalar ['n', 'u', 'l', 'l'] .null
  | true : Scalar ['t', 'r', 'u', 'e'] (.bool true)
  | false : Scalar ['f', 'a', 'l', 's', 'e'] (.bool false)
  | string {text cs : List Char} (h : Chars text cs) :
      Scalar ('"' :: (text ++ ['"'])) (.str (String.ofList cs))
  | number {text : List Char} {n : Number} (h : Numeral text)
      (rounded : scalar text = .ok (.num n, [])) : Scalar text (.num n)

section Parts

variable {α : Type}

/-- Something with blanks around it. -/
inductive Spaced (Part : List Char → α → Prop) : List Char → α → Prop
  | around {left text right : List Char} {a : α} (hl : Blank left) (hr : Blank right)
      (h : Part text a) : Spaced Part (left ++ (text ++ right)) a

/-- Parts with commas between them, of which there is at least one. -/
inductive Parts (Part : List Char → α → Prop) : List Char → List α → Prop
  | one {text : List Char} {a : α} (h : Spaced Part text a) : Parts Part text [a]
  | more {text others : List Char} {a : α} {as : List α} (h : Spaced Part text a)
      (hs : Parts Part others as) : Parts Part (text ++ ',' :: others) (a :: as)

/-- What stands between brackets: parts, or blanks alone. -/
inductive Inside (Part : List Char → α → Prop) : List Char → List α → Prop
  | empty {blanks : List Char} (h : Blank blanks) : Inside Part blanks []
  | parts {text : List Char} {as : List α} (h : Parts Part text as) : Inside Part text as

end Parts

/-- A member of an object: a name in quotes, a colon and a value. -/
inductive Member (Value : List Char → Json → Prop) : List Char → String × Json → Prop
  | named {name cs between left text : List Char} {v : Json} (hn : Chars name cs)
      (hb : Blank between) (hl : Blank left) (h : Value text v) :
      Member Value ('"' :: (name ++ '"' :: (between ++ ':' :: (left ++ text))))
        (String.ofList cs, v)

/-- A list or an object whose items or members are written as `Value` says. -/
inductive Nested (Value : List Char → Json → Prop) : List Char → Json → Prop
  | list {text : List Char} {items : List Json} (h : Inside Value text items) :
      Nested Value ('[' :: (text ++ [']'])) (.arr items)
  | object {text : List Char} {members : List (String × Json)}
      (h : Inside (Member Value) text members) :
      Nested Value ('{' :: (text ++ ['}'])) (ofMembers members)

/-- A text stands for a value whose lists and objects are nested at most `depth` deep. -/
def Spells : (depth : Nat) → List Char → Json → Prop
  | 0, text, v => Scalar text v
  | depth + 1, text, v => Scalar text v ∨ Nested (Spells depth) text v

/-- A text of JSON, and the value that it stands for. -/
def IsText (text : String) (v : Json) : Prop := Spaced (Spells maxDepth) text.toList v

end Pacts.Json
