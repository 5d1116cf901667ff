import Pacts.Broker.Links
import Pacts.Proofs.Url.Paths

/-!
# Names that stand in a path

A name that fills a field of a template is encoded: its letters, its digits and a few marks stand
for themselves, every other character is written as `%` and two hexadecimal digits for each of its
bytes.  This file says what an encoded name looks like from outside.

* `isNameChar_of_mem_encodeName`: it has no character that means something in a template or in a
  URL, apart from `%`.
* `isDotSegment_encodeName_iff`: it is a segment of one or two dots, in whatever spelling, only when
  the name itself is one or two dots.  A dot stands for itself, so `%2e` is never written; but
  encoding does not help a name that is made of dots.
-/

set_option autoImplicit false

namespace Pacts

namespace Text

/-- A byte below 128 in front of the bytes of a character is the character. -/
theorem toNat_head_utf8EncodeChar {c : Char} {b : UInt8} {bs : List UInt8}
    (h : String.utf8EncodeChar c = b :: bs) (hb : b.toNat < 128) : b.toNat = c.toNat := by
  have hc : c.val.toNat = c.toNat := rfl
  rw [String.utf8EncodeChar] at h
  split at h
  · obtain ⟨rfl, -⟩ := List.cons.inj h
    rw [UInt8.toNat_ofNat', hc]
    omega
  · -- the first of several bytes is at least 0xC0
    split at h
    · obtain ⟨rfl, -⟩ := List.cons.inj h
      rw [UInt8.toNat_ofNat'] at hb
      omega
    · split at h
      · obtain ⟨rfl, -⟩ := List.cons.inj h
        rw [UInt8.toNat_ofNat'] at hb
        omega
      · obtain ⟨rfl, -⟩ := List.cons.inj h
        rw [UInt8.toNat_ofNat'] at hb
        omega

end Text

namespace Links

/-! ## The characters of a name -/

/-- The characters of an encoded name. -/
def isNameChar (c : Char) : Bool := plainInName c || c == '%'

theorem toNat_lt_of_plainInName {c : Char} (h : plainInName c = true) : c.toNat < 128 := by
  have hle : ∀ d : Char, d.toNat < 128 → c.val ≤ d.val → c.toNat < 128 :=
    fun _ hd hc => Nat.lt_of_le_of_lt hc hd
  have hupper : c.isUpper = true → c.toNat < 128 := fun h =>
    hle 'Z' (by decide) (of_decide_eq_true h).2
  have hlower : c.isLower = true → c.toNat < 128 := fun h =>
    hle 'z' (by decide) (of_decide_eq_true (Bool.and_eq_true_iff.1 h).2)
  have hdigit : c.isDigit = true → c.toNat < 128 := fun h =>
    hle '9' (by decide) (of_decide_eq_true (Bool.and_eq_true_iff.1 h).2)
  have halpha : c.isAlpha = true → c.toNat < 128 := fun h =>
    (Bool.or_eq_true_iff.1 h).elim hupper hlower
  have halphanum : c.isAlphanum = true → c.toNat < 128 := fun h =>
    (Bool.or_eq_true_iff.1 h).elim halpha hdigit
  simp only [plainInName, Bool.or_eq_true, beq_iff_eq] at h
  rcases h with (((h | rfl) | rfl) | rfl) | rfl
  · exact halphanum h
  all_goals decide

/-- What holds of the first 128 characters holds of those that stand for themselves. -/
theorem forall_plainInName {p : Char → Bool}
    (h : ∀ n < 128, plainInName (Char.ofNat n) = true → p (Char.ofNat n) = true) {c : Char}
    (hc : plainInName c = true) : p c = true := by
  have hn := h c.toNat (toNat_lt_of_plainInName hc)
  rw [Char.ofNat_toNat] at hn
  exact hn hc

theorem plainInName_hexDigit : ∀ n < 16, plainInName (Text.hexDigit n) = true := by decide

/-- The first character of a name stands for itself, or the byte in front of its bytes is
written. -/
theorem encodeName_cons (c : Char) (cs : List Char) :
    (plainInName c = true ∧ encodeName (c :: cs) = c :: encodeName cs) ∨
      ∃ b bs, plainInName c = false ∧ String.utf8EncodeChar c = b :: bs ∧
        encodeName (c :: cs) =
          '%' :: Text.hexDigit (b.toNat / 16) :: Text.hexDigit (b.toNat % 16) ::
            (bs.flatMap Text.percentByte ++ encodeName cs) := by
  have hcons : encodeName (c :: cs) = Text.percentChar plainInName c ++ encodeName cs := rfl
  rw [hcons, Text.percentChar]
  cases hc : plainInName c with
  | true => exact .inl ⟨rfl, rfl⟩
  | false =>
    cases hb : String.utf8EncodeChar c with
    | nil => exact absurd hb String.utf8EncodeChar_ne_nil
    | cons b bs => exact .inr ⟨b, bs, rfl, rfl, rfl⟩

theorem isNameChar_of_mem_encodeName {name : List Char} {c : Char} (h : c ∈ encodeName name) :
    isNameChar c = true := by
  obtain ⟨d, -, hc⟩ := List.mem_flatMap.1 h
  rw [Text.percentChar] at hc
  split at hc
  · rename_i hd
    rw [List.mem_singleton.1 hc, isNameChar, hd, Bool.true_or]
  · obtain ⟨b, -, hb⟩ := List.mem_flatMap.1 hc
    have hb256 : b.toNat < 256 := b.toNat_lt
    rw [Text.percentByte, List.mem_cons, List.mem_cons, List.mem_singleton] at hb
    rcases hb with rfl | rfl | rfl
    · rfl
    · rw [isNameChar, plainInName_hexDigit _ (by omega), Bool.true_or]
    · rw [isNameChar, plainInName_hexDigit _ (by omega), Bool.true_or]

/-! ## Dots -/

theorem toLower_ne_percent {c : Char} (h : plainInName c = true) : c.toLower ≠ '%' := by
  have hb : (c.toLower != '%') = true :=
    forall_plainInName (p := fun c => c.toLower != '%') (by decide) h
  simpa using hb

theorem eq_dot_of_toLower {c : Char} (h : plainInName c = true) (hl : c.toLower = '.') :
    c = '.' := by
  have hb : (c.toLower != '.' || c == '.') = true :=
    forall_plainInName (p := fun c => c.toLower != '.' || c == '.') (by decide) h
  simpa [hl] using hb

theorem eq_two_of_hexDigit : ∀ n < 16, (Text.hexDigit n).toLower = '2' → n = 2 := by decide

theorem eq_fourteen_of_hexDigit : ∀ n < 16, (Text.hexDigit n).toLower = 'e' → n = 14 := by decide

/-- A dot is never written as a byte. -/
theorem not_encoded_dot (name rest : List Char) :
    (encodeName name).map Char.toLower ≠ '%' :: '2' :: 'e' :: rest := by
  intro h
  cases name with
  | nil => cases h
  | cons c cs =>
    rcases encodeName_cons c cs with ⟨hc, he⟩ | ⟨b, bs, hc, hb, he⟩
    · rw [he, List.map_cons, List.cons.injEq] at h
      exact toLower_ne_percent hc h.1
    · have hb256 : b.toNat < 256 := b.toNat_lt
      simp only [he, List.map_cons, List.cons.injEq] at h
      obtain ⟨-, hhigh, hlow, -⟩ := h
      have h2 := eq_two_of_hexDigit _ (by omega) hhigh
      have h14 := eq_fourteen_of_hexDigit _ (by omega) hlow
      have hdot : c.toNat = 46 := by
        rw [← Text.toNat_head_utf8EncodeChar hb (by omega)]
        omega
      have hc' : c = '.' := by rw [← Char.ofNat_toNat c, hdot]
      rw [hc'] at hc
      cases hc

/-- An encoded name that starts with a dot is that of a name that does. -/
theorem exists_dot {name rest : List Char} (h : (encodeName name).map Char.toLower = '.' :: rest) :
    ∃ cs, name = '.' :: cs ∧ (encodeName cs).map Char.toLower = rest := by
  cases name with
  | nil => cases h
  | cons c cs =>
    rcases encodeName_cons c cs with ⟨hc, he⟩ | ⟨b, bs, -, -, he⟩
    · rw [he, List.map_cons, List.cons.injEq] at h
      rw [eq_dot_of_toLower hc h.1]
      exact ⟨cs, rfl, h.2⟩
    · rw [he] at h
      cases h

theorem eq_nil_of_encodeName {name : List Char} (h : (encodeName name).map Char.toLower = []) :
    name = [] := by
  cases name with
  | nil => rfl
  | cons c cs =>
    rcases encodeName_cons c cs with ⟨-, he⟩ | ⟨b, bs, -, -, he⟩ <;>
    · rw [he] at h
      cases h

/-- **An encoded name is a segment of dots when the name is one or two dots.** -/
theorem isDotSegment_encodeName_iff {name : String} :
    Url.isDotSegment (String.ofList (encodeName name.toList)) = true ↔
      name = "." ∨ name = ".." := by
  constructor
  · intro h
    rw [Url.isDotSegment_ofList_iff] at h
    simp only [List.mem_cons, List.not_mem_nil, or_false] at h
    rcases h with h | h | h | h | h | h
    · obtain ⟨cs, hname, h⟩ := exists_dot h
      rw [eq_nil_of_encodeName h] at hname
      exact .inl (String.toList_inj.1 hname)
    · exact absurd h (not_encoded_dot _ _)
    · obtain ⟨cs, hname, hcs⟩ := exists_dot h
      obtain ⟨ds, rfl, hds⟩ := exists_dot hcs
      rw [eq_nil_of_encodeName hds] at hname
      exact .inr (String.toList_inj.1 hname)
    · exact absurd h (not_encoded_dot _ _)
    · obtain ⟨cs, -, h⟩ := exists_dot h
      exact absurd h (not_encoded_dot _ _)
    · exact absurd h (not_encoded_dot _ _)
  · rintro (rfl | rfl) <;> decide

end Links

end Pacts
