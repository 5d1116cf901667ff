import Mathlib.Logic.Function.Basic
import Pacts.Text.Base64
import Pacts.Text.Percent

/-!
# Reading back what was encoded

A text becomes bytes, and bytes become characters again: one by one behind a `%`, or three at a time
as four characters out of 64.  Nothing is lost on the way.  For each of the three codes there is a
reader that gives back what was written, and so two texts are never written alike.

* `utf8_injective` — the bytes of a text.
* `percentDecode_percentEncode` — percent encoding, as long as `%` does not stand for itself and
  only characters below 128 do.
* `fromBase64?` reads groups of four characters, and `fromBase64?_base64` says that it undoes
  `base64`, whether or not the last group is full.
-/

set_option autoImplicit false

namespace Pacts.Text

/-! ## The bytes of a text -/

theorem utf8_injective : Function.Injective utf8 := by
  intro a b h
  have hbytes : (String.ofList a).toByteArray = (String.ofList b).toByteArray := by
    rw [String.toByteArray_ofList, String.toByteArray_ofList]
    exact congrArg List.toByteArray h
  exact String.ofList_inj.1 (String.toByteArray_inj.1 hbytes)

theorem utf8EncodeChar_of_lt {c : Char} (h : c.toNat < 128) :
    String.utf8EncodeChar c = [UInt8.ofNat c.toNat] := by
  have hc : c.val.toNat ≤ 127 := Nat.le_of_lt_succ h
  rw [String.utf8EncodeChar]
  exact if_pos hc

/-! ## Percent encoding -/

theorem percentDecode_cons_of_ne {b : UInt8} (h : b ≠ 0x25) (bs : List UInt8) :
    percentDecode (b :: bs) = b :: percentDecode bs := by
  rw [percentDecode.eq_def]
  exact if_neg h

theorem hexDigitValue?_hexDigit :
    ∀ n < 16, hexDigitValue? (UInt8.ofNat (hexDigit n).toNat) = some n := by decide

theorem toNat_hexDigit_lt : ∀ n < 16, (hexDigit n).toNat < 128 := by decide

theorem percentDecode_percentByte (b : UInt8) (bs : List UInt8) :
    percentDecode (utf8 (percentByte b) ++ bs) = b :: percentDecode bs := by
  have hb : b.toNat < 256 := b.toNat_lt
  have hhigh : b.toNat / 16 < 16 := by omega
  have hlow : b.toNat % 16 < 16 := by omega
  have hbytes : utf8 (percentByte b) =
      [0x25, UInt8.ofNat (hexDigit (b.toNat / 16)).toNat,
        UInt8.ofNat (hexDigit (b.toNat % 16)).toNat] := by
    rw [percentByte, utf8_cons, utf8_cons, utf8_cons, utf8_nil,
      utf8EncodeChar_of_lt (toNat_hexDigit_lt _ hhigh),
      utf8EncodeChar_of_lt (toNat_hexDigit_lt _ hlow)]
    rfl
  have hsum : UInt8.ofNat (b.toNat / 16 * 16 + b.toNat % 16) = b := by
    rw [Nat.div_add_mod', UInt8.ofNat_toNat]
  rw [hbytes, percentDecode.eq_def]
  simp only [List.cons_append, List.nil_append, if_true, hexDigitValue?_hexDigit _ hhigh,
    hexDigitValue?_hexDigit _ hlow, hsum]

theorem percentDecode_flatMap_percentByte (bytes bs : List UInt8) :
    percentDecode (utf8 (bytes.flatMap percentByte) ++ bs) = bytes ++ percentDecode bs := by
  induction bytes with
  | nil => rfl
  | cons b bytes ih =>
    rw [List.flatMap_cons, utf8_append, List.append_assoc, percentDecode_percentByte, ih,
      List.cons_append]

/-- **Percent encoding can be read back.** -/
theorem percentDecode_percentEncode {plain : Char → Bool}
    (h : ∀ c, plain c = true → c.toNat < 128 ∧ c ≠ '%') (cs : List Char) :
    percentDecode (utf8 (percentEncode plain cs)) = utf8 cs := by
  induction cs with
  | nil => rfl
  | cons c cs ih =>
    have hcons : percentEncode plain (c :: cs) = percentChar plain c ++ percentEncode plain cs :=
      rfl
    rw [hcons, utf8_append, percentChar]
    cases hc : plain c with
    | true =>
      obtain ⟨hlt, hne⟩ := h c hc
      have hbyte : UInt8.ofNat c.toNat ≠ 0x25 := by
        intro he
        have hn : c.toNat % 256 = 37 := congrArg UInt8.toNat he
        rw [Nat.mod_eq_of_lt (by omega)] at hn
        exact hne (Char.toNat_inj.1 hn)
      rw [if_pos rfl, utf8_cons, utf8_nil, List.append_nil, utf8EncodeChar_of_lt hlt,
        List.singleton_append, percentDecode_cons_of_ne hbyte, ih, utf8_cons,
        utf8EncodeChar_of_lt hlt, List.singleton_append]
    | false =>
      rw [if_neg Bool.false_ne_true, percentDecode_flatMap_percentByte, ih, utf8_cons]

/-! ## Groups of four characters -/

/-- The characters in the order of their values. -/
def base64Alphabet : List Char :=
  "ABCDEFGHIJKLMNOPQRSTUVWXYZabcdefghijklmnopqrstuvwxyz0123456789+/".toList

/-- The value of a character, if it has one. -/
def base64Value? (c : Char) : Option Nat := base64Alphabet.idxOf? c

/-- The bytes that groups of four characters stand for.  A last group with `=` at its end stands for
two bytes or for one, and the bits that are too many have to be zero. -/
def fromBase64? : List Char → Option (List UInt8)
  | [] => some []
  | [a, b, '=', '='] =>
    match base64Value? a, base64Value? b with
    | some a, some b =>
      let n := a * 64 + b
      if n % 16 = 0 then some [UInt8.ofNat (n / 16)] else none
    | _, _ => none
  | [a, b, c, '='] =>
    match base64Value? a, base64Value? b, base64Value? c with
    | some a, some b, some c =>
      let n := (a * 64 + b) * 64 + c
      if n % 4 = 0 then some [UInt8.ofNat (n / 1024), UInt8.ofNat (n / 4 % 256)] else none
    | _, _, _ => none
  | a :: b :: c :: d :: rest =>
    match base64Value? a, base64Value? b, base64Value? c, base64Value? d with
    | some a, some b, some c, some d =>
      let n := ((a * 64 + b) * 64 + c) * 64 + d
      (fromBase64? rest).map fun bytes =>
        UInt8.ofNat (n / 65536) :: UInt8.ofNat (n / 256 % 256) :: UInt8.ofNat (n % 256) :: bytes
    | _, _, _, _ => none
  | _ => none

theorem base64Value?_base64Char : ∀ n < 64, base64Value? (base64Char n) = some n := by decide

theorem base64Char_ne_padding : ∀ n < 64, base64Char n ≠ '=' := by decide

/-- A full group, read as one number. -/
theorem fromBase64?_group {n : Nat} (h : n < 16777216) (rest : List Char) :
    fromBase64? (base64Char (n / 262144) :: base64Char (n / 4096 % 64) ::
        base64Char (n / 64 % 64) :: base64Char (n % 64) :: rest) =
      (fromBase64? rest).map fun bytes =>
        UInt8.ofNat (n / 65536) :: UInt8.ofNat (n / 256 % 256) :: UInt8.ofNat (n % 256) ::
          bytes := by
  have hlast : base64Char (n % 64) ≠ '=' := base64Char_ne_padding _ (by omega)
  have hn : ((n / 262144 * 64 + n / 4096 % 64) * 64 + n / 64 % 64) * 64 + n % 64 = n := by omega
  rw [fromBase64?, base64Value?_base64Char _ (by omega), base64Value?_base64Char _ (by omega),
    base64Value?_base64Char _ (by omega), base64Value?_base64Char _ (by omega)]
  · simp only [hn]
  -- the last character is none of those that fill a group up
  · exact fun _ h _ => hlast h
  · exact fun h _ => hlast h

/-- A last group of two bytes. -/
theorem fromBase64?_group_two {n : Nat} (h : n < 262144) (hn : n % 4 = 0) :
    fromBase64? [base64Char (n / 4096), base64Char (n / 64 % 64), base64Char (n % 64), '='] =
      some [UInt8.ofNat (n / 1024), UInt8.ofNat (n / 4 % 256)] := by
  have hlast : base64Char (n % 64) ≠ '=' := base64Char_ne_padding _ (by omega)
  have hsum : (n / 4096 * 64 + n / 64 % 64) * 64 + n % 64 = n := by omega
  rw [fromBase64?, base64Value?_base64Char _ (by omega), base64Value?_base64Char _ (by omega),
    base64Value?_base64Char _ (by omega)]
  · simp only [hsum, if_pos hn]
  · exact hlast

/-- A last group of one byte. -/
theorem fromBase64?_group_one {n : Nat} (h : n < 4096) (hn : n % 16 = 0) :
    fromBase64? [base64Char (n / 64), base64Char (n % 64), '=', '='] =
      some [UInt8.ofNat (n / 16)] := by
  have hsum : n / 64 * 64 + n % 64 = n := by omega
  rw [fromBase64?, base64Value?_base64Char _ (by omega), base64Value?_base64Char _ (by omega)]
  simp only [hsum, if_pos hn]

/-- **What is written in groups of four characters can be read back.** -/
theorem fromBase64?_base64 : ∀ bytes, fromBase64? (base64 bytes) = some bytes
  | [] => rfl
  | [a] => by
    have ha : a.toNat < 256 := a.toNat_lt
    have hfirst : a.toNat * 16 / 16 = a.toNat := by omega
    rw [base64, fromBase64?_group_one (by omega) (by omega), hfirst, UInt8.ofNat_toNat]
  | [a, b] => by
    have ha : a.toNat < 256 := a.toNat_lt
    have hb : b.toNat < 256 := b.toNat_lt
    have hfirst : (a.toNat * 256 + b.toNat) * 4 / 1024 = a.toNat := by omega
    have hsecond : (a.toNat * 256 + b.toNat) * 4 / 4 % 256 = b.toNat := by omega
    rw [base64, fromBase64?_group_two (by omega) (by omega), hfirst, hsecond, UInt8.ofNat_toNat,
      UInt8.ofNat_toNat]
  | a :: b :: c :: rest => by
    have ha : a.toNat < 256 := a.toNat_lt
    have hb : b.toNat < 256 := b.toNat_lt
    have hc : c.toNat < 256 := c.toNat_lt
    have hfirst : ((a.toNat * 256 + b.toNat) * 256 + c.toNat) / 65536 = a.toNat := by omega
    have hsecond : ((a.toNat * 256 + b.toNat) * 256 + c.toNat) / 256 % 256 = b.toNat := by omega
    have hthird : ((a.toNat * 256 + b.toNat) * 256 + c.toNat) % 256 = c.toNat := by omega
    have hread := fromBase64?_group
      (show (a.toNat * 256 + b.toNat) * 256 + c.toNat < 16777216 by omega) (base64 rest)
    rw [fromBase64?_base64 rest, hfirst, hsecond, hthird, UInt8.ofNat_toNat, UInt8.ofNat_toNat,
      UInt8.ofNat_toNat] at hread
    exact hread

theorem base64_injective : Function.Injective base64 := by
  intro a b h
  have hread := fromBase64?_base64 a
  rw [h, fromBase64?_base64 b] at hread
  exact (Option.some.inj hread).symm

end Pacts.Text
