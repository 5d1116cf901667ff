import Pacts.Proofs.Json.Grammar

/-!
# Reading numbers

The reader of numbers is a chain of steps, each for the next part of a number, that hand on what was
read so far.  A part can be long: digits that cannot be kept are still taken, and how many they are
may count.  So a step looks at what stands behind its own part only to see that the part has ended,
and `Takes` says so: the step takes off a text of a certain shape, and in front of anything else
that ends a number it takes the same text and comes to the same number.

`takes_number` is the result for whole numbers.
-/

set_option autoImplicit false

namespace Pacts.Json

/-! ## Runs of digits -/

/-- What does not start as it should starts with some other character. -/
theorem exists_cons_of_head {p : Char → Prop} {cs : List Char} (h : ¬∀ c ∈ cs.head?, p c) :
    ∃ c cs', cs = c :: cs' ∧ ¬p c := by
  cases cs with
  | nil => exact absurd (by rintro c ⟨⟩) h
  | cons c cs =>
    refine ⟨c, cs, rfl, fun hc => h ?_⟩
    rintro d ⟨⟩
    exact hc

theorem Digits.cons {d : Char} {ds : List Char} (hd : d.isDigit = true) (h : Digits ds) :
    Digits (d :: ds) :=
  List.forall_mem_cons.2 ⟨hd, h⟩

theorem Digits.tail {d : Char} {ds : List Char} (h : Digits (d :: ds)) : Digits ds :=
  (List.forall_mem_cons.1 h).2

theorem digits_append_iff {ds ds' : List Char} : Digits (ds ++ ds') ↔ Digits ds ∧ Digits ds' :=
  List.forall_mem_append

theorem digits_takeWhile (cs : List Char) : Digits (cs.takeWhile Char.isDigit) :=
  fun _ hd => List.mem_takeWhile_imp hd

theorem takeWhile_digits_append {ds rest : List Char} (hd : Digits ds) (hr : DigitFree rest) :
    (ds ++ rest).takeWhile Char.isDigit = ds := by
  rw [List.takeWhile_append_of_pos hd]
  cases rest with
  | nil => simp
  | cons c rest => simp [hr c rfl]

theorem dropWhile_digits_append {ds rest : List Char} (hd : Digits ds) (hr : DigitFree rest) :
    (ds ++ rest).dropWhile Char.isDigit = rest := by
  rw [List.dropWhile_append_of_pos hd]
  cases rest with
  | nil => rfl
  | cons c rest => simp [hr c rfl]

theorem isDigit_of_digit? {c : Char} {n : Nat} (h : digit? c = some n) : c.isDigit = true := by
  by_contra hc
  rw [digit?_eq_none (eq_false_of_ne_true hc)] at h
  cases h

theorem digitFree_cons {c : Char} (h : digit? c = none) (cs : List Char) : DigitFree (c :: cs) := by
  rintro d ⟨⟩
  by_contra hd
  rw [digit?_of_isDigit (by simpa using hd)] at h
  cases h

theorem Exponent.digitFree_append {text other : List Char} (h : Exponent text)
    (ho : DigitFree other) : DigitFree (text ++ other) := by
  cases h with
  | none => exact ho
  | some he _ =>
    rintro c ⟨⟩
    simp only [List.mem_cons, List.not_mem_nil, or_false] at he
    rcases he with rfl | rfl <;> decide

theorem Tail.digitFree_append {text other : List Char} (h : Tail text) (ho : DigitFree other) :
    DigitFree (text ++ other) := by
  cases h with
  | whole h => exact h.digitFree_append ho
  | point _ _ =>
    rintro c ⟨⟩
    decide

/-! ## Steps -/

/-- A step of the reader takes a text of a certain shape off the front, and comes to the same number
in front of anything else that ends a number. -/
def Takes (step : List Char → Reading (Number × List Char)) (Shape : List Char → Prop) : Prop :=
  ∀ cs n rest, step cs = .ok (n, rest) →
    ∃ text, cs = text ++ rest ∧ Shape text ∧
      ∀ other, Ended other → step (text ++ other) = .ok (n, other)

section Steps

variable {negative negativeExponent : Bool} {significand : Nat} {start exponent : Int}

theorem scaled_eq_ok {cs rest : List Char} {n : Number}
    (h : scaled negative significand exponent cs = .ok (n, rest)) :
    cs = rest ∧ ∀ other, scaled negative significand exponent other = .ok (n, other) := by
  unfold scaled at h ⊢
  split at h
  · rename_i x hx
    cases h
    exact ⟨rfl, fun _ => rfl⟩
  · cases h

theorem exponentDigits_ended {e : Nat} {other : List Char} (h : DigitFree other) :
    exponentDigits negative significand start negativeExponent e other =
      scaled negative significand (if negativeExponent then start - e else start + e) other := by
  cases other with
  | nil => rfl
  | cons c other => rw [exponentDigits, digit?_eq_none (h c rfl)]

theorem takes_exponentDigits (e : Nat) :
    Takes (exponentDigits negative significand start negativeExponent e) Digits := by
  intro cs
  have none : ∀ {cs rest : List Char} {n : Number} {e : Nat}, DigitFree cs →
      exponentDigits negative significand start negativeExponent e cs = .ok (n, rest) →
      ∃ text, cs = text ++ rest ∧ Digits text ∧ ∀ other, Ended other →
        exponentDigits negative significand start negativeExponent e (text ++ other) =
          .ok (n, other) := by
    intro cs rest n e hfree h
    rw [exponentDigits_ended hfree] at h
    obtain ⟨rfl, hother⟩ := scaled_eq_ok h
    refine ⟨[], rfl, fun _ h => (by cases h), fun other ho => ?_⟩
    rw [List.nil_append, exponentDigits_ended ho.digitFree]
    exact hother other
  induction cs generalizing e with
  | nil => exact fun n rest h => none (by rintro c ⟨⟩) h
  | cons c cs ih =>
    intro n rest h
    cases hc : digit? c with
    | none => exact none (digitFree_cons hc cs) h
    | some d =>
      have hdigit := isDigit_of_digit? hc
      rw [exponentDigits, hc] at h
      simp only at h
      split at h
      · rename_i hlarge
        split at h
        · cases h
        · rename_i hzero
          cases h
          refine ⟨c :: cs.takeWhile Char.isDigit, ?_, (digits_takeWhile cs).cons hdigit,
            fun other ho => ?_⟩
          · rw [List.cons_append, List.takeWhile_append_dropWhile]
          · rw [List.cons_append, exponentDigits, hc]
            simp only
            rw [if_pos hlarge, if_neg hzero,
              dropWhile_digits_append (digits_takeWhile cs) ho.digitFree]
      · rename_i hsmall
        obtain ⟨text, rfl, hdigits, hother⟩ := ih _ n rest h
        refine ⟨c :: text, rfl, hdigits.cons hdigit, fun other ho => ?_⟩
        rw [List.cons_append, exponentDigits, hc]
        simp only
        rw [if_neg hsmall]
        exact hother other ho

/-- The digits of an exponent, from behind its sign. -/
def powerDigits (negative : Bool) (significand : Nat) (start : Int) (negativeExponent : Bool) :
    List Char → Reading (Number × List Char)
  | [] => .error (.behind .eofInValue [])
  | c :: cs => match digit? c with
    | some d => exponentDigits negative significand start negativeExponent d cs
    | none => .error (.before .invalidNumber (c :: cs))

theorem takes_powerDigits :
    Takes (powerDigits negative significand start negativeExponent)
      fun text => ∃ d ds, text = d :: ds ∧ Digits (d :: ds) := by
  intro cs n rest h
  cases cs with
  | nil => cases h
  | cons c cs =>
    rw [powerDigits] at h
    split at h
    · rename_i d hd
      obtain ⟨text, rfl, hdigits, hother⟩ := takes_exponentDigits d cs n rest h
      refine ⟨c :: text, rfl, ⟨c, text, rfl, hdigits.cons (isDigit_of_digit? hd)⟩,
        fun other ho => ?_⟩
      rw [List.cons_append, powerDigits, hd]
      exact hother other ho
    · cases h

theorem exponentPart_of_plain {c : Char} (hplus : c ≠ '+') (hminus : c ≠ '-') (cs : List Char) :
    exponentPart negative significand start (c :: cs) =
      powerDigits negative significand start false (c :: cs) := by
  rw [exponentPart]
  · rfl
  · rintro _ ⟨⟩
    exact hplus rfl
  · rintro _ ⟨⟩
    exact hminus rfl

theorem takes_exponentPart : Takes (exponentPart negative significand start) Power := by
  intro cs n rest h
  cases cs with
  | nil => cases h
  | cons c cs =>
    by_cases hplus : c = '+'
    · subst hplus
      obtain ⟨_, rfl, ⟨d, ds, rfl, hd⟩, hother⟩ := takes_powerDigits cs n rest h
      have hpower : Power (['+'] ++ d :: ds) := .digits (by simp) hd
      exact ⟨'+' :: d :: ds, rfl, hpower, hother⟩
    · by_cases hminus : c = '-'
      · subst hminus
        obtain ⟨_, rfl, ⟨d, ds, rfl, hd⟩, hother⟩ := takes_powerDigits cs n rest h
        have hpower : Power (['-'] ++ d :: ds) := .digits (by simp) hd
        exact ⟨'-' :: d :: ds, rfl, hpower, hother⟩
      · rw [exponentPart_of_plain hplus hminus] at h
        obtain ⟨_, he, ⟨d, ds, rfl, hd⟩, hother⟩ := takes_powerDigits _ n rest h
        obtain ⟨rfl, rfl⟩ := List.cons.inj he
        have hpower : Power ([] ++ c :: ds) := .digits (by simp) hd
        refine ⟨c :: ds, rfl, hpower, fun other ho => ?_⟩
        rw [List.cons_append, exponentPart_of_plain hplus hminus]
        exact hother other ho

/-- What stands behind the digits of a number, unless it is an exponent. -/
theorem scaledOrExponent_of_plain {cs : List Char} (h : ∀ c ∈ cs.head?, c ≠ 'e' ∧ c ≠ 'E') :
    scaledOrExponent negative significand exponent cs =
      scaled negative significand exponent cs := by
  unfold scaledOrExponent
  split
  · exact absurd rfl (h _ rfl).1
  · exact absurd rfl (h _ rfl).2
  · rfl

theorem takes_scaledOrExponent :
    Takes (scaledOrExponent negative significand exponent) Exponent := by
  intro cs n rest h
  by_cases hplain : ∀ c ∈ cs.head?, c ≠ 'e' ∧ c ≠ 'E'
  · rw [scaledOrExponent_of_plain hplain] at h
    obtain ⟨rfl, hother⟩ := scaled_eq_ok h
    refine ⟨[], rfl, .none, fun other ho => ?_⟩
    rw [List.nil_append, scaledOrExponent_of_plain fun c hc => (ho c hc).2.2]
    exact hother other
  · obtain ⟨e, cs', rfl, hletter⟩ := exists_cons_of_head hplain
    have he : e ∈ ['e', 'E'] := by
      rw [List.mem_pair]
      tauto
    have hstep : ∀ cs, scaledOrExponent negative significand exponent (e :: cs) =
        exponentPart negative significand exponent cs := by
      intro cs
      simp only [List.mem_cons, List.not_mem_nil, or_false] at he
      rcases he with rfl | rfl <;> rfl
    rw [hstep] at h
    obtain ⟨text, rfl, hpower, hother⟩ := takes_exponentPart cs' n rest h
    refine ⟨e :: text, rfl, .some he hpower, fun other ho => ?_⟩
    rw [List.cons_append, hstep]
    exact hother other ho

theorem fractionDigits_of_digitFree {taken : Nat} {cs : List Char} (h : DigitFree cs)
    (ht : taken ≠ 0) :
    fractionDigits negative exponent significand taken cs =
      scaledOrExponent negative significand (exponent - taken) cs := by
  cases cs with
  | nil => rw [fractionDigits, if_neg ht]
  | cons c cs =>
    rw [fractionDigits, digit?_eq_none (h c rfl)]
    simp only
    rw [if_neg ht]

theorem ne_zero_of_fractionDigits {taken : Nat} {cs rest : List Char} {n : Number}
    (hfree : DigitFree cs)
    (h : fractionDigits negative exponent significand taken cs = .ok (n, rest)) : taken ≠ 0 := by
  rintro rfl
  cases cs with
  | nil => cases h
  | cons c cs =>
    rw [fractionDigits, digit?_eq_none (hfree c rfl)] at h
    cases h

/-- The digits behind the point; there is one at least, unless some were taken before. -/
theorem takes_fractionDigits (significand taken : Nat) :
    Takes (fractionDigits negative exponent significand taken) fun text =>
      ∃ ds ex, text = ds ++ ex ∧ Digits ds ∧ (taken = 0 → ds ≠ []) ∧ Exponent ex := by
  intro cs
  have none : ∀ {cs rest : List Char} {n : Number} {significand taken : Nat}, DigitFree cs →
      fractionDigits negative exponent significand taken cs = .ok (n, rest) →
      ∃ text, cs = text ++ rest ∧
        (∃ ds ex, text = ds ++ ex ∧ Digits ds ∧ (taken = 0 → ds ≠ []) ∧ Exponent ex) ∧
        ∀ other, Ended other →
          fractionDigits negative exponent significand taken (text ++ other) = .ok (n, other) := by
    intro cs rest n significand taken hfree h
    have ht := ne_zero_of_fractionDigits hfree h
    rw [fractionDigits_of_digitFree hfree ht] at h
    obtain ⟨text, rfl, hex, hother⟩ := takes_scaledOrExponent cs n rest h
    refine ⟨text, rfl, ⟨[], text, rfl, fun _ h => (by cases h), fun h0 => absurd h0 ht, hex⟩,
      fun other ho => ?_⟩
    rw [fractionDigits_of_digitFree (hex.digitFree_append ho.digitFree) ht]
    exact hother other ho
  induction cs generalizing significand taken with
  | nil => exact fun n rest h => none (by rintro c ⟨⟩) h
  | cons c cs ih =>
    intro n rest h
    cases hc : digit? c with
    | none => exact none (digitFree_cons hc cs) h
    | some d =>
      have hdigit := isDigit_of_digit? hc
      rw [fractionDigits, hc] at h
      simp only at h
      split at h
      · -- the digits that are left are taken without being kept
        rename_i hlarge
        obtain ⟨text, he, hex, hother⟩ := takes_scaledOrExponent _ n rest h
        have hdigits := digits_takeWhile cs
        refine ⟨c :: cs.takeWhile Char.isDigit ++ text, ?_,
          ⟨_, text, rfl, hdigits.cons hdigit, fun _ => List.cons_ne_nil _ _, hex⟩,
          fun other ho => ?_⟩
        · rw [List.append_assoc, ← he, List.cons_append, List.takeWhile_append_dropWhile]
        · rw [List.append_assoc, List.cons_append, fractionDigits, hc]
          simp only
          rw [if_pos hlarge,
            dropWhile_digits_append hdigits (hex.digitFree_append ho.digitFree)]
          exact hother other ho
      · rename_i hsmall
        obtain ⟨_, rfl, ⟨ds, ex, rfl, hdigits, -, hex⟩, hother⟩ := ih _ _ n rest h
        refine ⟨c :: (ds ++ ex), rfl,
          ⟨c :: ds, ex, rfl, hdigits.cons hdigit, fun _ => List.cons_ne_nil _ _, hex⟩,
          fun other ho => ?_⟩
        rw [List.cons_append, fractionDigits, hc]
        simp only
        rw [if_neg hsmall]
        exact hother other ho

/-! ## What follows the digits in front of the point -/

theorem takes_point {significand : Nat} :
    Takes (fractionDigits negative exponent significand 0) fun text => Tail ('.' :: text) := by
  intro cs n rest h
  obtain ⟨_, rfl, ⟨ds, ex, rfl, hdigits, hne, hex⟩, hother⟩ := takes_fractionDigits _ _ cs n rest h
  cases ds with
  | nil => exact absurd rfl (hne rfl)
  | cons d ds => exact ⟨d :: ds ++ ex, rfl, .point hdigits hex, hother⟩

/-- What follows the digits in front of the point, when it is not a point. -/
theorem afterLongInteger_of_plain {cs : List Char} (h : ∀ c ∈ cs.head?, c ≠ '.') :
    afterLongInteger negative significand exponent cs =
      scaledOrExponent negative significand exponent cs := by
  unfold afterLongInteger
  split
  · exact absurd rfl (h _ rfl)
  · rfl

theorem Exponent.ne_point_append {text other : List Char} (h : Exponent text) (ho : Ended other) :
    ∀ c ∈ (text ++ other).head?, c ≠ '.' := by
  cases h with
  | none => exact fun c hc => (ho c hc).2.1
  | some he _ =>
    rintro c ⟨⟩ rfl
    revert he
    decide

theorem takes_afterLongInteger :
    Takes (afterLongInteger negative significand exponent) Tail := by
  intro cs n rest h
  by_cases hplain : ∀ c ∈ cs.head?, c ≠ '.'
  · rw [afterLongInteger_of_plain hplain] at h
    obtain ⟨text, rfl, hex, hother⟩ := takes_scaledOrExponent cs n rest h
    refine ⟨text, rfl, .whole hex, fun other ho => ?_⟩
    rw [afterLongInteger_of_plain (hex.ne_point_append ho)]
    exact hother other ho
  · obtain ⟨c, cs, rfl, hpoint⟩ := exists_cons_of_head hplain
    obtain rfl : c = '.' := not_not.1 hpoint
    obtain ⟨text, rfl, htail, hother⟩ := takes_point cs n rest h
    exact ⟨'.' :: text, rfl, htail, hother⟩

/-- What follows the digits in front of the point, when that is neither a point nor an exponent. -/
theorem afterInteger_of_plain {cs : List Char}
    (h : ∀ c ∈ cs.head?, c ≠ '.' ∧ c ≠ 'e' ∧ c ≠ 'E') :
    afterInteger negative significand cs =
      if !negative then .ok (.integer significand, cs)
      else if significand = 0 ∨ Nat.pow 2 63 < significand then scaled true significand 0 cs
      else .ok (.integer (-(significand : Int)), cs) := by
  unfold afterInteger
  split
  · exact absurd rfl (h _ rfl).1
  · exact absurd rfl (h _ rfl).2.1
  · exact absurd rfl (h _ rfl).2.2
  · rfl

/-- An integer is a number of its own. -/
theorem afterInteger_eq_ok {cs rest : List Char} {n : Number}
    (hplain : ∀ c ∈ cs.head?, c ≠ '.' ∧ c ≠ 'e' ∧ c ≠ 'E')
    (h : afterInteger negative significand cs = .ok (n, rest)) :
    cs = rest ∧
      ∀ other, Ended other → afterInteger negative significand other = .ok (n, other) := by
  have hended : ∀ other, Ended other → ∀ c ∈ other.head?, c ≠ '.' ∧ c ≠ 'e' ∧ c ≠ 'E' :=
    fun other ho c hc => (ho c hc).2
  rw [afterInteger_of_plain hplain] at h
  split at h
  · rename_i hpositive
    cases h
    refine ⟨rfl, fun other ho => ?_⟩
    rw [afterInteger_of_plain (hended other ho), if_pos hpositive]
  · rename_i hnegative
    split at h
    · rename_i hlarge
      obtain ⟨he, hother⟩ := scaled_eq_ok h
      refine ⟨he, fun other ho => ?_⟩
      rw [afterInteger_of_plain (hended other ho), if_neg hnegative, if_pos hlarge]
      exact hother other
    · rename_i hsmall
      cases h
      refine ⟨rfl, fun other ho => ?_⟩
      rw [afterInteger_of_plain (hended other ho), if_neg hnegative, if_neg hsmall]

theorem takes_afterInteger : Takes (afterInteger negative significand) Tail := by
  intro cs n rest h
  by_cases hplain : ∀ c ∈ cs.head?, c ≠ '.' ∧ c ≠ 'e' ∧ c ≠ 'E'
  · obtain ⟨rfl, hother⟩ := afterInteger_eq_ok hplain h
    exact ⟨[], rfl, .whole .none, hother⟩
  · obtain ⟨c, cs, rfl, hc⟩ := exists_cons_of_head hplain
    have hsign : c = '.' ∨ c = 'e' ∨ c = 'E' := by tauto
    rcases hsign with rfl | rfl | rfl
    · obtain ⟨text, rfl, htail, hother⟩ := takes_point cs n rest h
      exact ⟨'.' :: text, rfl, htail, hother⟩
    · obtain ⟨text, rfl, hpower, hother⟩ := takes_exponentPart cs n rest h
      exact ⟨'e' :: text, rfl, .whole (.some (by simp) hpower), hother⟩
    · obtain ⟨text, rfl, hpower, hother⟩ := takes_exponentPart cs n rest h
      exact ⟨'E' :: text, rfl, .whole (.some (by simp) hpower), hother⟩

/-! ## Whole numbers -/

theorem takes_integerDigits (significand : Nat) :
    Takes (integerDigits negative significand) fun text =>
      ∃ ds tail, text = ds ++ tail ∧ Digits ds ∧ Tail tail := by
  intro cs
  have none : ∀ {cs rest : List Char} {n : Number} {significand : Nat}, DigitFree cs →
      integerDigits negative significand cs = .ok (n, rest) →
      ∃ text, cs = text ++ rest ∧ (∃ ds tail, text = ds ++ tail ∧ Digits ds ∧ Tail tail) ∧
        ∀ other, Ended other →
          integerDigits negative significand (text ++ other) = .ok (n, other) := by
    intro cs rest n significand hfree h
    rw [integerDigits_of_digitFree _ _ hfree] at h
    obtain ⟨text, rfl, htail, hother⟩ := takes_afterInteger cs n rest h
    refine ⟨text, rfl, ⟨[], text, rfl, fun _ h => (by cases h), htail⟩, fun other ho => ?_⟩
    rw [integerDigits_of_digitFree _ _ (htail.digitFree_append ho.digitFree)]
    exact hother other ho
  induction cs generalizing significand with
  | nil => exact fun n rest h => none (by rintro c ⟨⟩) h
  | cons c cs ih =>
    intro n rest h
    cases hc : digit? c with
    | none => exact none (digitFree_cons hc cs) h
    | some d =>
      have hdigit := isDigit_of_digit? hc
      rw [integerDigits, hc] at h
      simp only at h
      split at h
      · -- how many digits are taken without being kept counts
        rename_i hlarge
        obtain ⟨text, he, htail, hother⟩ := takes_afterLongInteger _ n rest h
        have hdigits := (digits_takeWhile cs).cons hdigit
        have htaken : (c :: cs).takeWhile Char.isDigit = c :: cs.takeWhile Char.isDigit := by
          rw [List.takeWhile_cons_of_pos hdigit]
        refine ⟨c :: cs.takeWhile Char.isDigit ++ text, ?_, ⟨_, text, rfl, hdigits, htail⟩,
          fun other ho => ?_⟩
        · rw [List.append_assoc, ← he, List.cons_append, List.takeWhile_append_dropWhile]
        · have hfree := htail.digitFree_append ho.digitFree
          have hagain :
              (c :: (cs.takeWhile Char.isDigit ++ (text ++ other))).takeWhile Char.isDigit =
                (c :: cs).takeWhile Char.isDigit := by
            rw [← List.cons_append, takeWhile_digits_append hdigits hfree, htaken]
          rw [List.append_assoc, List.cons_append, integerDigits, hc]
          simp only
          rw [if_pos hlarge, hagain, dropWhile_digits_append (digits_takeWhile cs) hfree]
          exact hother other ho
      · rename_i hsmall
        obtain ⟨_, rfl, ⟨ds, tail, rfl, hdigits, htail⟩, hother⟩ := ih _ n rest h
        refine ⟨c :: (ds ++ tail), rfl, ⟨c :: ds, tail, rfl, hdigits.cons hdigit, htail⟩,
          fun other ho => ?_⟩
        rw [List.cons_append, integerDigits, hc]
        simp only
        rw [if_neg hsmall]
        exact hother other ho

/-- Behind a zero stands no other digit. -/
theorem number_zero {cs : List Char} (h : DigitFree cs) :
    number negative ('0' :: cs) = afterInteger negative 0 cs := by
  cases cs with
  | nil => rfl
  | cons c cs => simp [number, h c rfl]

theorem digitFree_of_number_zero {cs rest : List Char} {n : Number}
    (h : number negative ('0' :: cs) = .ok (n, rest)) : DigitFree cs := by
  cases cs with
  | nil => rintro c ⟨⟩
  | cons c cs =>
    rintro d ⟨⟩
    by_contra hd
    rw [Bool.not_eq_false] at hd
    simp [number, hd] at h

theorem number_of_ne_zero {c : Char} (hc : c ≠ '0') (cs : List Char) :
    number negative (c :: cs) = match digit? c with
      | some d => integerDigits negative d cs
      | none => .error (.before .invalidNumber (c :: cs)) := by
  rw [number.eq_def]
  split
  · rename_i h
    cases h
  · rename_i h
    exact absurd (List.cons.inj h).1 hc
  · rename_i h
    obtain ⟨rfl, rfl⟩ := List.cons.inj h
    rfl

/-- **A number without its sign is taken off the front.** -/
theorem takes_number : Takes (number negative) Unsigned := by
  intro cs n rest h
  cases cs with
  | nil => cases h
  | cons c cs =>
    by_cases hc : c = '0'
    · subst hc
      rw [number_zero (digitFree_of_number_zero h)] at h
      obtain ⟨text, rfl, htail, hother⟩ := takes_afterInteger cs n rest h
      refine ⟨'0' :: text, rfl, .zero htail, fun other ho => ?_⟩
      rw [List.cons_append, number_zero (htail.digitFree_append ho.digitFree)]
      exact hother other ho
    · rw [number_of_ne_zero hc] at h
      split at h
      · rename_i d hd
        obtain ⟨_, rfl, ⟨ds, tail, rfl, hdigits, htail⟩, hother⟩ :=
          takes_integerDigits d cs n rest h
        refine ⟨c :: ds ++ tail, rfl, .digits hc (hdigits.cons (isDigit_of_digit? hd)) htail,
          fun other ho => ?_⟩
        rw [List.cons_append, List.cons_append, number_of_ne_zero hc, hd]
        exact hother other ho
      · cases h

end Steps

end Pacts.Json
