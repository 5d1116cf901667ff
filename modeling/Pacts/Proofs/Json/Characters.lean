import Pacts.Proofs.Json.Grammar
import Pacts.Proofs.Results

/-!
# Reading the characters between quotes

The reader takes what stands between quotes character by character: a plain one as it is, and an
escape as a whole, up to twelve characters for one.  `escapedChar_eq_ok_iff` is the step: what is
read behind a backslash is an escape of the grammar, and nothing behind it is looked at.  From it
follows that the reader finds the closing quote exactly where the grammar has it
(`string_eq_ok_iff`).
-/

set_option autoImplicit false

namespace Pacts.Json

/-! ## Escapes -/

theorem hexDigits_eq_ok_iff {cs rest : List Char} {n : Nat} :
    hexDigits cs = .ok (n, rest) ↔ ∃ ds, cs = ds ++ rest ∧ Hex ds n := by
  constructor
  · intro h
    rw [hexDigits.eq_def] at h
    split at h
    · split at h
      · rename_i a b c d cs _ _ _ _ w x y z ha hb hc hd
        cases h
        exact ⟨[a, b, c, d], rfl, .four ha hb hc hd⟩
      · cases h
    · split at h <;> cases h
  · rintro ⟨ds, rfl, h⟩
    cases h with
    | four ha hb hc hd => simp [hexDigits, ha, hb, hc, hd]

theorem numberedChar_eq_ok_iff {cs rest : List Char} {c : Char} :
    numberedChar cs = .ok (c, rest) ↔ ∃ e, cs = e ++ rest ∧ Escape ('u' :: e) c := by
  constructor
  · intro h
    rw [numberedChar] at h
    obtain ⟨⟨high, behind⟩, hhigh, hnext⟩ := bind_eq_ok_iff.1 h
    obtain ⟨hs, rfl, hhex⟩ := hexDigits_eq_ok_iff.1 hhigh
    simp only at hnext
    split at hnext
    · cases hnext
    · split at hnext
      · rename_i hlone hplain
        cases hnext
        exact ⟨hs, rfl, .number hhex (by omega)⟩
      · rename_i hlone hplain
        split at hnext
        · obtain ⟨⟨low, behind⟩, hlow, hlast⟩ := bind_eq_ok_iff.1 hnext
          obtain ⟨ls, rfl, lhex⟩ := hexDigits_eq_ok_iff.1 hlow
          simp only at hlast
          split at hlast
          · cases hlast
          · -- the upper half was let through, and the lower half has been looked at
            obtain ⟨rfl, rfl⟩ := Prod.mk.inj (Except.ok.inj hlast)
            refine ⟨hs ++ '\\' :: 'u' :: ls, by simp, .pair hhex lhex ?_ ?_⟩
            · omega
            · omega
        all_goals cases hnext
  · rintro ⟨e, rfl, h⟩
    generalize he : 'u' :: e = text at h
    cases h with
    | letter h =>
      obtain ⟨rfl, rfl⟩ := List.cons.inj he
      simp [letterEscapes] at h
    | number h hn =>
      obtain ⟨-, rfl⟩ := List.cons.inj he
      rw [numberedChar, hexDigits_eq_ok_iff.2 ⟨e, rfl, h⟩]
      simp only [bind, Except.bind]
      rw [if_neg (by omega), if_pos (by omega)]
    | pair hh hl hhigh hlow =>
      obtain ⟨-, rfl⟩ := List.cons.inj he
      rw [numberedChar, List.append_assoc, hexDigits_eq_ok_iff.2 ⟨_, rfl, hh⟩]
      simp only [bind, Except.bind, List.cons_append]
      rw [if_neg (by omega), if_neg (by omega), hexDigits_eq_ok_iff.2 ⟨_, rfl, hl⟩]
      simp only
      rw [if_neg (by omega)]

/-- What is read behind a backslash is an escape, whatever stands behind it. -/
theorem escapedChar_eq_ok_iff {cs rest : List Char} {c : Char} :
    escapedChar cs = .ok (c, rest) ↔ ∃ e, cs = e ++ rest ∧ Escape e c := by
  constructor
  · intro h
    rw [escapedChar.eq_def] at h
    split at h
    · cases h
    · obtain ⟨e, rfl, he⟩ := numberedChar_eq_ok_iff.1 h
      exact ⟨'u' :: e, rfl, he⟩
    all_goals cases h
    all_goals exact ⟨[_], rfl, .letter (by simp [letterEscapes])⟩
  · rintro ⟨e, rfl, h⟩
    cases h with
    | letter h =>
      simp only [letterEscapes, List.mem_cons, Prod.mk.injEq, List.not_mem_nil, or_false] at h
      rcases h with ⟨rfl, rfl⟩ | ⟨rfl, rfl⟩ | ⟨rfl, rfl⟩ | ⟨rfl, rfl⟩ | ⟨rfl, rfl⟩ | ⟨rfl, rfl⟩ |
        ⟨rfl, rfl⟩ | ⟨rfl, rfl⟩ <;> rfl
    | number h hn => exact numberedChar_eq_ok_iff.2 ⟨_, rfl, .number h hn⟩
    | pair hh hl hhigh hlow => exact numberedChar_eq_ok_iff.2 ⟨_, rfl, .pair hh hl hhigh hlow⟩

/-! ## Whole texts -/

theorem exists_chars_of_stringBody {fuel : Nat} {soFar cs rest : List Char} {s : String}
    (h : stringBody fuel soFar cs = .ok (s, rest)) :
    ∃ text chars, cs = text ++ '"' :: rest ∧ Chars text chars ∧
      s = String.ofList (soFar.reverse ++ chars) := by
  induction fuel generalizing soFar cs with
  | zero => cases h
  | succ fuel ih =>
    rw [stringBody.eq_def] at h
    split at h
    · rename_i he
      cases he
    · cases h
    · cases h
      exact ⟨[], [], rfl, .nil, by simp⟩
    · rename_i he
      cases he
      obtain ⟨⟨c, behind⟩, hc, hnext⟩ := bind_eq_ok_iff.1 h
      obtain ⟨e, rfl, hescape⟩ := escapedChar_eq_ok_iff.1 hc
      obtain ⟨text, chars, rfl, hchars, rfl⟩ := ih hnext
      exact ⟨'\\' :: (e ++ text), c :: chars, by simp, .escape hescape hchars, by simp⟩
    · rename_i he
      cases he
      split at h
      · cases h
      · rename_i hquote hbackslash hcontrol
        obtain ⟨text, chars, rfl, hchars, rfl⟩ := ih h
        refine ⟨_ :: text, _ :: chars, rfl, .plain hcontrol ?_ ?_ hchars, by simp⟩
        · rintro rfl
          exact hquote rfl
        · rintro rfl
          exact hbackslash rfl

theorem stringBody_of_chars {text chars : List Char} (h : Chars text chars) (rest : List Char) :
    ∀ (fuel : Nat) (soFar : List Char), text.length < fuel →
      stringBody fuel soFar (text ++ '"' :: rest) =
        .ok (String.ofList (soFar.reverse ++ chars), rest) := by
  induction h with
  | nil =>
    intro fuel soFar hf
    obtain ⟨fuel, rfl⟩ := Nat.exists_eq_succ_of_ne_zero (Nat.ne_of_gt hf)
    rw [List.append_nil]
    rfl
  | plain control quote backslash _ ih =>
    intro fuel soFar hf
    obtain ⟨fuel, rfl⟩ := Nat.exists_eq_succ_of_ne_zero (Nat.ne_of_gt (Nat.zero_lt_of_lt hf))
    rw [List.cons_append, stringBody, if_neg control, ih fuel _ (Nat.lt_of_succ_lt_succ hf)]
    · simp
    · exact quote
    · exact backslash
  | @escape e c text cs he _ ih =>
    intro fuel soFar hf
    obtain ⟨fuel, rfl⟩ := Nat.exists_eq_succ_of_ne_zero (Nat.ne_of_gt (Nat.zero_lt_of_lt hf))
    -- a whole escape takes one unit of fuel, which its backslash pays for
    have hlength : text.length < fuel := by
      simp only [List.length_cons, List.length_append] at hf
      omega
    have hstep : escapedChar (e ++ (text ++ '"' :: rest)) = .ok (c, text ++ '"' :: rest) :=
      escapedChar_eq_ok_iff.2 ⟨e, rfl, he⟩
    rw [List.cons_append, List.append_assoc, stringBody, hstep]
    simp only [bind, Except.bind, ih fuel _ hlength]
    simp

/-- **What stands between quotes is read as the characters that are meant.** -/
theorem string_eq_ok_iff {cs rest : List Char} {s : String} :
    string cs = .ok (s, rest) ↔
      ∃ text chars, cs = text ++ '"' :: rest ∧ Chars text chars ∧ s = String.ofList chars := by
  constructor
  · intro h
    obtain ⟨text, chars, rfl, hchars, rfl⟩ := exists_chars_of_stringBody h
    exact ⟨text, chars, rfl, hchars, rfl⟩
  · rintro ⟨text, chars, rfl, hchars, rfl⟩
    rw [string, stringBody_of_chars hchars rest _ []
      (by simp only [List.length_append, List.length_cons]; omega)]
    rfl

end Pacts.Json
