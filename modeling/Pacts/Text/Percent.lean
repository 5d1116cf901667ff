import Pacts.Text.Bytes

/-!
# Percent encoding

Inside a URL a character that may not stand for itself is written byte by byte, each byte as `%` and
two hexadecimal digits in capitals.  Which characters may stand for themselves depends on the part
of the URL and is a parameter.
-/

set_option autoImplicit false

namespace Pacts.Text

/-- The hexadecimal digit in capitals of a number below sixteen. -/
def hexDigit (n : Nat) : Char := if n < 10 then Char.ofNat (48 + n) else Char.ofNat (55 + n)

/-- The value of a hexadecimal digit, small or capital. -/
def hexDigitValue? (b : UInt8) : Option Nat :=
  let n := b.toNat
  if 48 ≤ n ∧ n ≤ 57 then some (n - 48)
  else if 65 ≤ n ∧ n ≤ 70 then some (n - 55)
  else if 97 ≤ n ∧ n ≤ 102 then some (n - 87)
  else none

/-- One byte, encoded. -/
def percentByte (b : UInt8) : List Char := ['%', hexDigit (b.toNat / 16), hexDigit (b.toNat % 16)]

/-- One character as it stands in a text where only the characters in `plain` stand for
themselves. -/
def percentChar (plain : Char → Bool) (c : Char) : List Char :=
  if plain c then [c] else (String.utf8EncodeChar c).flatMap percentByte

/-- A text in which every character outside `plain` is encoded. -/
def percentEncode (plain : Char → Bool) (cs : List Char) : List Char :=
  cs.flatMap (percentChar plain)

/-- The bytes of a text, in which every `%` with two hexadecimal digits stands for one byte. -/
def percentDecode : List UInt8 → List UInt8
  | [] => []
  | b :: bs =>
    if b = 0x25 then
      match bs with
      | high :: low :: rest =>
        match hexDigitValue? high, hexDigitValue? low with
        | some h, some l => UInt8.ofNat (h * 16 + l) :: percentDecode rest
        | _, _ => b :: percentDecode (high :: low :: rest)
      | rest => b :: percentDecode rest
    else b :: percentDecode bs

theorem percentEncode_of_plain {plain : Char → Bool} {cs : List Char}
    (h : ∀ c ∈ cs, plain c = true) : percentEncode plain cs = cs := by
  induction cs with
  | nil => rfl
  | cons c cs ih =>
    have hc := h c (by simp)
    have hcs := ih fun d hd => h d (by simp [hd])
    simp [percentEncode, percentChar, hc] at hcs ⊢
    exact hcs

end Pacts.Text
