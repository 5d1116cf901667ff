import Pacts.Json.Reader
import Pacts.Json.Writer

/-!
# Quoted texts are read back

The writer puts a text between double quotes and escapes what cannot stand there; the reader takes
the characters back one by one.  `stringBody_escapeChar` is the step: whichever way a character is
written, the reader takes all of it and nothing behind it.  From it follows that a quoted text is
read back as it was, whatever stands behind its closing quote (`string_escaped`).
-/

set_option autoImplicit false

namespace Pacts.Json

/-! ## One character -/

@[simp]
theorem hexValue?_digitChar : ∀ n < 16, hexValue? (Nat.digitChar n) = some n := by decide

/-- An escape by number stands for the character of that number. -/
theorem escapedChar_control {c : Char} (h : c.toNat < 0x20) (rest : List Char) :
    escapedChar ('u' :: '0' :: '0' ::
        Nat.digitChar (c.toNat / 16) :: Nat.digitChar (c.toNat % 16) :: rest) = .ok (c, rest) := by
  have hzero : hexValue? '0' = some 0 := by decide
  have hnumber : 16 * (c.toNat / 16) + c.toNat % 16 = c.toNat := Nat.div_add_mod _ _
  have hdigits : hexDigits
      ('0' :: '0' :: Nat.digitChar (c.toNat / 16) :: Nat.digitChar (c.toNat % 16) :: rest) =
        .ok (c.toNat, rest) := by
    simp only [hexDigits, hzero, hexValue?_digitChar _ (show c.toNat / 16 < 16 by omega),
      hexValue?_digitChar _ (Nat.mod_lt c.toNat (show 16 > 0 by decide))]
    congr 2
    omega
  rw [escapedChar, numberedChar, hdigits]
  simp only [bind, Except.bind]
  rw [if_neg (by omega), if_pos (by omega), Char.ofNat_toNat]

/-- **One step of reading a text.**  However a character is written, the reader takes all of it and
nothing behind it. -/
theorem stringBody_escapeChar (fuel : Nat) (soFar : List Char) (c : Char) (rest : List Char) :
    stringBody (fuel + 1) soFar (escapeChar c ++ rest) = stringBody fuel (c :: soFar) rest := by
  have escaped : ∀ {cs : List Char}, escapedChar (cs ++ rest) = .ok (c, rest) →
      stringBody (fuel + 1) soFar ('\\' :: (cs ++ rest)) = stringBody fuel (c :: soFar) rest := by
    intro cs h
    rw [stringBody, h]
    rfl
  rw [escapeChar]
  split
  · subst c; exact @escaped ['"'] rfl
  split
  · subst c; exact @escaped ['\\'] rfl
  split
  · subst c; exact @escaped ['n'] rfl
  split
  · subst c; exact @escaped ['r'] rfl
  split
  · subst c; exact @escaped ['t'] rfl
  split
  · rename_i h
    obtain rfl : c = Char.ofNat 0x08 := by rw [← h, Char.ofNat_toNat]
    exact @escaped ['b'] rfl
  split
  · rename_i h
    obtain rfl : c = Char.ofNat 0x0C := by rw [← h, Char.ofNat_toNat]
    exact @escaped ['f'] rfl
  split
  · rename_i h
    exact @escaped ['u', '0', '0', _, _] (escapedChar_control h rest)
  · rename_i hquote hbackslash _ _ _ _ _ hcontrol
    simp only [List.cons_append, List.nil_append]
    rw [stringBody, if_neg hcontrol]
    · simpa using hquote
    · simpa using hbackslash

/-! ## Whole texts -/

/-- Reading takes the characters of a text one by one, up to the closing quote. -/
theorem stringBody_escaped (cs rest : List Char) : ∀ (fuel : Nat) (soFar : List Char),
    cs.length < fuel →
      stringBody fuel soFar (cs.flatMap escapeChar ++ '"' :: rest) =
        .ok (String.ofList (soFar.reverse ++ cs), rest) := by
  induction cs with
  | nil =>
    intro fuel soFar h
    obtain ⟨fuel, rfl⟩ := Nat.exists_eq_succ_of_ne_zero (Nat.ne_of_gt h)
    simp [stringBody]
  | cons c cs ih =>
    intro fuel soFar h
    obtain ⟨fuel, rfl⟩ := Nat.exists_eq_succ_of_ne_zero (Nat.ne_of_gt (Nat.zero_lt_of_lt h))
    rw [List.flatMap_cons, List.append_assoc, stringBody_escapeChar,
      ih fuel (c :: soFar) (Nat.lt_of_succ_lt_succ h)]
    simp

/-- Pieces that are not empty are at most as many as the characters they make up. -/
theorem length_le_flatMap {α β : Type} {f : α → List β} (h : ∀ a, 1 ≤ (f a).length) (l : List α) :
    l.length ≤ (l.flatMap f).length := by
  induction l with
  | nil => simp
  | cons a l ih =>
    have := h a
    simp only [List.length_cons, List.flatMap_cons, List.length_append]
    omega

theorem one_le_length_escapeChar (c : Char) : 1 ≤ (escapeChar c).length := by
  unfold escapeChar
  repeat' split
  all_goals simp

/-- **A quoted text is read back**, from behind its opening quote and whatever follows it. -/
theorem string_escaped (cs rest : List Char) :
    string (cs.flatMap escapeChar ++ '"' :: rest) = .ok (String.ofList cs, rest) := by
  have hlength := length_le_flatMap one_le_length_escapeChar cs
  rw [string, stringBody_escaped cs rest _ []
    (by simp only [List.length_append, List.length_cons]; omega)]
  rfl

theorem toList_quote (s : String) :
    (quote s).toList = '"' :: (s.toList.flatMap escapeChar ++ ['"']) := by
  rw [quote, String.toList_ofList, List.cons_append]

end Pacts.Json
