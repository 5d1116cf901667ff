import Mathlib.Algebra.Group.Int.Defs
import Mathlib.Algebra.Group.Nat.Defs
import Pacts.Json.Reader

/-!
# Numerals are read back

An integer of 64 bits is written in its decimal digits, and the reader gives the same integer back
(`scalar_integer`).  Reading goes through the digits and keeps the number that those so far stand
for; it never drops a digit, because the numbers on the way are at most the number at the end.

What stands behind a number must not go on with it: `Ended` says so.
-/

set_option autoImplicit false

namespace Pacts.Json

/-- Integers of 64 bits, with or without a sign. -/
def Number.IsWord : Number → Prop
  | .integer n => -2 ^ 63 ≤ n ∧ n < 2 ^ 64
  | .float _ => False

/-- Nothing in front goes on with a number. -/
def Ended (rest : List Char) : Prop :=
  ∀ c ∈ rest.head?, c.isDigit = false ∧ c ≠ '.' ∧ c ≠ 'e' ∧ c ≠ 'E'

/-- No digit stands in front. -/
def DigitFree (rest : List Char) : Prop := ∀ c ∈ rest.head?, c.isDigit = false

theorem Ended.digitFree {rest : List Char} (h : Ended rest) : DigitFree rest :=
  fun c hc => (h c hc).1

/-! ## Digits -/

theorem digit?_eq_none {c : Char} (h : c.isDigit = false) : digit? c = none := by simp [digit?, h]

theorem digit?_of_isDigit {c : Char} (h : c.isDigit = true) :
    digit? c = some (c.toNat - '0'.toNat) := by
  simp [digit?, h]

/-- The number that digits stand for grows with every digit. -/
theorem le_ofDigitChars (ds : List Char) (m : Nat) : m ≤ Nat.ofDigitChars 10 ds m := by
  induction ds generalizing m with
  | nil => simp
  | cons d ds ih =>
    rw [Nat.ofDigitChars_cons]
    exact Nat.le_trans (by omega) (ih _)

/-- The digits of a number other than zero do not start with a zero. -/
theorem head_toDigits_ne_zero (n : Nat) (h : 0 < n) : (Nat.toDigits 10 n).head? ≠ some '0' := by
  induction n using Nat.strongRecOn with
  | ind n ih =>
    rw [Nat.toDigits_eq_if (by decide)]
    split
    · rename_i hn
      have : ∀ m < 10, 0 < m → Nat.digitChar m ≠ '0' := by decide
      simpa using this n hn h
    · have hne : (Nat.toDigits 10 (n / 10)).head? ≠ none := by
        simp [Nat.toDigits_ne_nil]
      rw [List.head?_append, Option.or_of_isSome (Option.isSome_iff_ne_none.mpr hne)]
      exact ih (n / 10) (by omega) (by omega)

/-! ## Integers -/

theorem integerDigits_of_digitFree (negative : Bool) (m : Nat) {rest : List Char}
    (h : DigitFree rest) : integerDigits negative m rest = afterInteger negative m rest := by
  cases rest with
  | nil => rfl
  | cons c rest => rw [integerDigits, digit?_eq_none (h c rfl)]

/-- Reading digits gives the number that they stand for, as long as that has 64 bits. -/
theorem integerDigits_append (negative : Bool) {rest : List Char} (hr : Ended rest) :
    ∀ (ds : List Char) (m : Nat), (∀ d ∈ ds, d.isDigit = true) →
      Nat.ofDigitChars 10 ds m ≤ maxSignificand →
      integerDigits negative m (ds ++ rest) =
        afterInteger negative (Nat.ofDigitChars 10 ds m) rest := by
  intro ds
  induction ds with
  | nil => intro m _ _; exact integerDigits_of_digitFree negative m hr.digitFree
  | cons d ds ih =>
    intro m hd hm
    rw [Nat.ofDigitChars_cons] at hm ⊢
    -- a digit is dropped once the number so far is too large, and it is at most the whole number
    have hkept := Nat.le_trans (le_ofDigitChars ds _) hm
    rw [List.cons_append, integerDigits, digit?_of_isDigit (hd d (by simp))]
    rw [Nat.mul_comm 10 m] at hm hkept ⊢
    simp only
    rw [if_neg (Nat.not_lt.mpr hkept)]
    exact ih _ (fun c hc => hd c (List.mem_cons_of_mem _ hc)) hm

/-- A number in front of a text that ends it is read back by its digits. -/
theorem number_toDigits (negative : Bool) (n : Nat) {rest : List Char} (hr : Ended rest)
    (hn : n ≤ maxSignificand) :
    number negative (Nat.toDigits 10 n ++ rest) = afterInteger negative n rest := by
  rcases Nat.eq_zero_or_pos n with rfl | hpos
  · rw [Nat.toDigits_zero]
    cases rest with
    | nil => rfl
    | cons c rest => simp [number, (hr c rfl).1]
  · have hdigits : ∀ d ∈ Nat.toDigits 10 n, d.isDigit = true := fun d hd =>
      Nat.isDigit_of_mem_toDigits (by decide) (by decide) hd
    have hvalue : Nat.ofDigitChars 10 (Nat.toDigits 10 n) 0 = n := Nat.ofDigitChars_ten_toDigits
    have hlead := head_toDigits_ne_zero n hpos
    cases hds : Nat.toDigits 10 n with
    | nil => exact absurd hds Nat.toDigits_ne_nil
    | cons d ds =>
      rw [hds] at hdigits hvalue hlead
      rw [Nat.ofDigitChars_cons, Nat.mul_zero, Nat.zero_add] at hvalue
      rw [List.cons_append, number, digit?_of_isDigit (hdigits d (by simp))]
      · simp only
        rw [integerDigits_append negative hr ds _
          (fun c hc => hdigits c (List.mem_cons_of_mem _ hc)) (hvalue ▸ hn), hvalue]
      · simpa using hlead

theorem afterInteger_false (n : Nat) {rest : List Char} (hr : Ended rest) :
    afterInteger false n rest = .ok (.integer n, rest) := by
  unfold afterInteger
  split
  · exact absurd rfl (hr _ rfl).2.1
  · exact absurd rfl (hr _ rfl).2.2.1
  · exact absurd rfl (hr _ rfl).2.2.2
  · rfl

theorem afterInteger_true {n : Nat} (hpos : 0 < n) (hn : n ≤ 2 ^ 63) {rest : List Char}
    (hr : Ended rest) : afterInteger true n rest = .ok (.integer (-(n : Int)), rest) := by
  have hkept : ¬(n = 0 ∨ Nat.pow 2 63 < n) := fun h =>
    h.elim (Nat.ne_of_gt hpos) (Nat.not_lt.mpr hn)
  unfold afterInteger
  split
  · exact absurd rfl (hr _ rfl).2.1
  · exact absurd rfl (hr _ rfl).2.2.1
  · exact absurd rfl (hr _ rfl).2.2.2
  · rw [if_neg (by decide), if_neg hkept]

theorem toList_text_ofNat (n : Nat) : (Number.integer n).text.toList = Nat.toDigits 10 n := by
  rw [← String.toList_ofList (l := Nat.toDigits 10 n), ← Nat.toString_eq_ofList_toDigits]
  rfl

theorem toList_text_negSucc (n : Nat) :
    (Number.integer (Int.negSucc n)).text.toList = '-' :: Nat.toDigits 10 (n + 1) := by
  have h := toList_text_ofNat (n + 1)
  change (toString (Int.negSucc n)).toList = _
  change ("-" ++ (n + 1).repr).toList = _
  rw [String.toList_append]
  exact congrArg ('-' :: ·) h

/-- A text that starts with a digit is read as a number. -/
theorem scalar_cons_of_isDigit {c : Char} (hc : c.isDigit = true) (cs : List Char) :
    scalar (c :: cs) = (do
      let (n, cs) ← number false (c :: cs)
      .ok (.num n, cs)) := by
  have hne : ∀ d : Char, d.isDigit = false → c ≠ d := by
    rintro d hd rfl
    rw [hc] at hd
    cases hd
  rw [scalar, if_pos hc]
  all_goals exact hne _ (by decide)

theorem scalar_toDigits (n : Nat) (rest : List Char) :
    scalar (Nat.toDigits 10 n ++ rest) = (do
      let (m, cs) ← number false (Nat.toDigits 10 n ++ rest)
      .ok (.num m, cs)) := by
  cases hds : Nat.toDigits 10 n with
  | nil => exact absurd hds Nat.toDigits_ne_nil
  | cons d ds =>
    have hd : d.isDigit = true :=
      Nat.isDigit_of_mem_toDigits (by decide) (by decide) (hds ▸ List.mem_cons_self)
    exact scalar_cons_of_isDigit hd (ds ++ rest)

/-- **An integer is read back**, in front of a text that ends it. -/
theorem scalar_integer {n : Number} (hn : n.IsWord) {rest : List Char} (hr : Ended rest) :
    scalar (n.text.toList ++ rest) = .ok (.num n, rest) := by
  obtain (n | n) | x := n
  · have hmax : n ≤ maxSignificand := by
      have h : (n : Int) < 2 ^ 64 := hn.2
      have : maxSignificand = 2 ^ 64 - 1 := rfl
      omega
    change scalar ((Number.integer (n : Int)).text.toList ++ rest) = _
    rw [toList_text_ofNat, scalar_toDigits, number_toDigits false n hr hmax,
      afterInteger_false n hr]
    rfl
  · have hword : n + 1 ≤ 2 ^ 63 := by
      have h : -2 ^ 63 ≤ Int.negSucc n := hn.1
      omega
    have hmax : n + 1 ≤ maxSignificand := Nat.le_trans hword (by decide)
    rw [toList_text_negSucc, List.cons_append, scalar, number_toDigits true (n + 1) hr hmax,
      afterInteger_true (Nat.succ_pos n) hword hr]
    rfl
  · exact hn.elim

end Pacts.Json
