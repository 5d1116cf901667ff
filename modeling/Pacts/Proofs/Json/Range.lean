import Pacts.Proofs.Json.Acceptance
import Pacts.Proofs.Number.Rounding

/-!
# Which numbers are in range

`magnitude` is the number that a numeral stands for, without its sign: its digits, and where the
point and the exponent put them.  It knows nothing of the reader.

The reader keeps at most 64 bits of the digits and rounds in steps, so it works with a number that
is only near the one that is meant.  `Judged` says what comes of it all the same: a number that
stays below `2 ^ 1024` is taken and one that reaches it is refused, and only about a number that is
closer to it than one part in `2 ^ 40` nothing is said.  The steps of the reader are judged from the
last one back, each for all that is left when it begins.

A text may have `2 ^ 30` characters.  In a longer one an exponent that the reader takes for too
large could be made up for by zeros.
-/

set_option autoImplicit false

namespace Pacts.Json

/-! ## The number that is meant -/

/-- What is behind the letter of an exponent. -/
def powerOf : List Char → ℤ
  | '+' :: ds => Nat.ofDigitChars 10 ds 0
  | '-' :: ds => -Nat.ofDigitChars 10 ds 0
  | ds => Nat.ofDigitChars 10 ds 0

/-- The exponent, which is zero if there is none. -/
def exponentOf : List Char → ℤ
  | [] => 0
  | _ :: text => powerOf text

/-- The number `n` in front of the point, together with what is behind it. -/
def decimalOf (n : ℕ) : List Char → ℚ
  | '.' :: text =>
    Nat.ofDigitChars 10 (text.takeWhile Char.isDigit) n *
      10 ^ (exponentOf (text.dropWhile Char.isDigit) - (text.takeWhile Char.isDigit).length)
  | text => n * 10 ^ exponentOf text

/-- A number without a sign. -/
def unsignedOf (text : List Char) : ℚ :=
  decimalOf (Nat.ofDigitChars 10 (text.takeWhile Char.isDigit) 0) (text.dropWhile Char.isDigit)

/-- The number that a numeral stands for, without its sign. -/
def magnitude : List Char → ℚ
  | '-' :: text => unsignedOf text
  | text => unsignedOf text

example : magnitude "-12.5e1".toList = 125 := by decide +kernel

theorem decimalOf_of_exponent (n : ℕ) {text : List Char} (h : Exponent text) :
    decimalOf n text = n * 10 ^ exponentOf text := by
  cases h with
  | none => rfl
  | some he _ =>
    rw [List.mem_pair] at he
    rcases he with rfl | rfl <;> rfl

theorem decimalOf_point (n : ℕ) {ds text : List Char} (hd : Digits ds) (h : DigitFree text) :
    decimalOf n ('.' :: (ds ++ text)) =
      Nat.ofDigitChars 10 ds n * 10 ^ (exponentOf text - ds.length) := by
  rw [decimalOf, takeWhile_digits_append hd h, dropWhile_digits_append hd h]

/-! ## The number that is kept -/

/-- Two numbers that are off by no more than what the digits that are dropped can be worth. -/
def Near (w v : ℚ) : Prop := w ≤ v + v / 2 ^ 50 ∧ v ≤ w + w / 2 ^ 50

theorem near_self {v : ℚ} (h : 0 ≤ v) : Near v v := by
  have hpart : 0 ≤ v / 2 ^ 50 := by positivity
  exact ⟨by linarith, by linarith⟩

/-- Two numbers that agree in 60 bits. -/
theorem near_of_between {n : ℕ} (hn : 2 ^ 60 ≤ n) {c w v : ℚ} (hc : 0 ≤ c)
    (hw : n * c ≤ w ∧ w ≤ (n + 1) * c) (hv : n * c ≤ v ∧ v ≤ (n + 1) * c) : Near w v := by
  have hn' : (2 : ℚ) ^ 60 ≤ n := by exact_mod_cast hn
  have hc' : 2 ^ 60 * c ≤ n * c := mul_le_mul_of_nonneg_right hn' hc
  exact ⟨by linarith [hw.2, hv.1], by linarith [hw.1, hv.2]⟩

theorem between_self (n : ℕ) {c : ℚ} (hc : 0 ≤ c) : n * c ≤ n * c ∧ n * c ≤ (n + 1) * c :=
  ⟨le_rfl, by linarith⟩

theorem ten_zpow_nonneg (e : ℤ) : (0 : ℚ) ≤ 10 ^ e := zpow_nonneg (by norm_num) e

theorem digit_le_nine {d : Char} (h : d.isDigit = true) : d.toNat - '0'.toNat ≤ 9 :=
  Nat.sub_le_of_le_add (Char.isDigit_iff_toNat.1 h).2

/-- Further digits put a number below the next one. -/
theorem ofDigitChars_between {ds : List Char} (hd : Digits ds) (n : ℕ) :
    n * 10 ^ ds.length ≤ Nat.ofDigitChars 10 ds n ∧
      Nat.ofDigitChars 10 ds n < (n + 1) * 10 ^ ds.length := by
  induction ds generalizing n with
  | nil => simp
  | cons d ds ih =>
    have hdigit := digit_le_nine (hd d List.mem_cons_self)
    obtain ⟨hlow, hhigh⟩ := ih hd.tail (10 * n + (d.toNat - '0'.toNat))
    rw [Nat.ofDigitChars_cons, List.length_cons, pow_succ']
    refine ⟨le_trans ?_ hlow, hhigh.trans_le ?_⟩
    · rw [← mul_assoc, mul_comm n]
      exact Nat.mul_le_mul_right _ (by omega)
    · rw [← mul_assoc, mul_comm (n + 1)]
      exact Nat.mul_le_mul_right _ (by omega)

/-- What further digits are worth behind a number. -/
theorem worth_between {ds : List Char} (hd : Digits ds) (n : ℕ) (e : ℤ) :
    n * (10 : ℚ) ^ e ≤ Nat.ofDigitChars 10 ds n * 10 ^ (e - ds.length) ∧
      Nat.ofDigitChars 10 ds n * 10 ^ (e - ds.length) ≤ (n + 1) * (10 : ℚ) ^ e := by
  obtain ⟨hlow, hhigh⟩ := ofDigitChars_between hd n
  have hpos : (0 : ℚ) < 10 ^ (e - ds.length) := zpow_pos (by norm_num) _
  have he : (10 : ℚ) ^ e = 10 ^ ds.length * 10 ^ (e - ds.length) := by
    rw [← zpow_natCast, ← zpow_add₀ (by norm_num)]
    congr 1
    ring
  have hlow' : (n : ℚ) * 10 ^ ds.length ≤ Nat.ofDigitChars 10 ds n := by exact_mod_cast hlow
  have hhigh' : (Nat.ofDigitChars 10 ds n : ℚ) ≤ (n + 1) * 10 ^ ds.length := by
    exact_mod_cast hhigh.le
  rw [he, ← mul_assoc, ← mul_assoc]
  exact ⟨mul_le_mul_of_nonneg_right hlow' hpos.le, mul_le_mul_of_nonneg_right hhigh' hpos.le⟩

/-! ## What comes of a number -/

open Binary64 (limit)

/-- What a reader returns for a number that is meant and the whole text of it. -/
structure Judged (v : ℚ) (r : Reading (Number × List Char)) : Prop where
  taken (h : v ≤ limit - limit / 2 ^ 40) : ∃ n, r = .ok (n, [])
  refused (h : limit + limit / 2 ^ 40 ≤ v) : ∃ f, r = .error f ∧ f.reason = .numberOutOfRange

section Steps

variable {negative negativeExponent : Bool} {significand : ℕ} {start exponent : ℤ} {v : ℚ}

theorem judged_scaled (hs : significand ≤ maxSignificand)
    (h : Near (significand * 10 ^ exponent) v) :
    Judged v (scaled negative significand exponent []) := by
  have hlimit := Binary64.limit_pos
  have hbits : significand < 2 ^ 64 := Nat.lt_of_le_pred (by positivity) hs
  obtain ⟨hw, hv⟩ := h
  constructor
  · intro hsmall
    have hle : (significand : ℚ) * 10 ^ exponent ≤ limit - limit / 2 ^ 48 := by linarith
    obtain ⟨x, hx⟩ := Option.isSome_iff_exists.1 (Binary64.isSome_ofScaled? negative hbits hle)
    exact ⟨.float x, by rw [scaled, hx]⟩
  · intro hlarge
    have hle : limit + limit / 2 ^ 48 ≤ (significand : ℚ) * 10 ^ exponent := by linarith
    have hnone := Binary64.ofScaled?_eq_none negative hbits hle
    exact ⟨⟨.numberOutOfRange, [], 0, true⟩, by rw [scaled, hnone], rfl⟩

theorem judged_of_large (hv : limit ≤ v) {f : Fault} (hf : f.reason = .numberOutOfRange) :
    Judged v (.error f) := by
  have hlimit := Binary64.limit_pos
  refine ⟨fun h => ?_, fun _ => ⟨f, rfl, hf⟩⟩
  exact absurd (hv.trans h) (by linarith)

theorem judged_of_small (hv : v ≤ limit) (n : Number) : Judged v (.ok (n, [])) := by
  have hlimit := Binary64.limit_pos
  refine ⟨fun _ => ⟨n, rfl⟩, fun h => ?_⟩
  exact absurd (h.trans hv) (by linarith)

/-- A number of 64 bits is far below the limit. -/
theorem le_limit_of_near {w : ℚ} (hw : w ≤ 2 ^ 64) (h : Near w v) : v ≤ limit := by
  have hlimit := Binary64.two_pow_le_limit
  linarith [h.2]

/-- A number other than zero with an exponent that is large enough is far beyond the limit. -/
theorem limit_le_of_near (hs : significand ≠ 0) (he : 310 ≤ exponent)
    (h : Near (significand * 10 ^ exponent) v) : limit ≤ v := by
  have hone : (1 : ℚ) ≤ significand := by exact_mod_cast Nat.one_le_iff_ne_zero.2 hs
  have hten : (10 : ℚ) ^ 309 * 10 ≤ 10 ^ exponent := by
    rw [← zpow_natCast, ← zpow_add_one₀ (by norm_num)]
    exact zpow_le_zpow_right₀ (by norm_num) he
  have hle : (10 : ℚ) ^ exponent ≤ significand * 10 ^ exponent :=
    le_mul_of_one_le_left (ten_zpow_nonneg _) hone
  have hlimit := Binary64.limit_pos
  have hpower := Binary64.limit_lt_ten_pow
  generalize (10 : ℚ) ^ 309 = power at *
  linarith [h.1]

/-- A number whose exponent is not above zero is far below the limit. -/
theorem le_limit_of_nonpos (hs : significand ≤ maxSignificand) (he : exponent ≤ 0)
    (h : Near (significand * 10 ^ exponent) v) : v ≤ limit := by
  have hbits : significand ≤ 2 ^ 64 := hs.trans (by decide)
  have hle : (significand : ℚ) * 10 ^ exponent ≤ significand :=
    mul_le_of_le_one_right significand.cast_nonneg (zpow_le_one_of_nonpos₀ (by norm_num) he)
  exact le_limit_of_near (hle.trans (by exact_mod_cast hbits)) h

theorem judged_exponentDigits {ds : List Char} (hd : Digits ds)
    (hs : significand ≤ maxSignificand) (hstart : |start| ≤ 2 ^ 30) (e : ℕ)
    (h : Near (significand * 10 ^ (if negativeExponent then start - Nat.ofDigitChars 10 ds e
      else start + Nat.ofDigitChars 10 ds e)) v) :
    Judged v (exponentDigits negative significand start negativeExponent e ds) := by
  induction ds generalizing e with
  | nil => exact judged_scaled hs h
  | cons d ds ih =>
    rw [exponentDigits, digit?_of_isDigit (hd d List.mem_cons_self)]
    rw [Nat.ofDigitChars_cons, mul_comm 10 e] at h
    simp only
    split
    · rename_i hlarge
      have hrest : ds.dropWhile Char.isDigit = [] := List.dropWhile_eq_nil_iff.2 hd.tail
      have hgrown := le_ofDigitChars ds (e * 10 + (d.toNat - '0'.toNat))
      generalize Nat.ofDigitChars 10 ds (e * 10 + (d.toNat - '0'.toNat)) = n at h hgrown
      have hn : 2 ^ 31 ≤ n := le_trans (Nat.succ_le_of_lt hlarge) hgrown
      obtain ⟨hlow, hhigh⟩ := abs_le.1 hstart
      cases negativeExponent with
      | false =>
        rw [if_neg Bool.false_ne_true] at h
        split
        · rename_i hbeyond
          exact judged_of_large (limit_le_of_near hbeyond.1 (by omega) h) rfl
        · rename_i hbelow
          obtain rfl : significand = 0 := by simpa using hbelow
          rw [hrest]
          exact judged_of_small (le_limit_of_near (by simp) h) _
      | true =>
        rw [if_pos rfl] at h
        rw [if_neg (by simp), hrest]
        exact judged_of_small (le_limit_of_nonpos hs (by omega) h) _
    · exact ih hd.tail _ h

theorem judged_powerDigits {d : Char} {ds : List Char} (hd : Digits (d :: ds))
    (hs : significand ≤ maxSignificand) (hstart : |start| ≤ 2 ^ 30)
    (h : Near (significand * 10 ^ (if negativeExponent then start - Nat.ofDigitChars 10 (d :: ds) 0
      else start + Nat.ofDigitChars 10 (d :: ds) 0)) v) :
    Judged v (powerDigits negative significand start negativeExponent (d :: ds)) := by
  rw [powerDigits, digit?_of_isDigit (hd d List.mem_cons_self)]
  rw [Nat.ofDigitChars_cons, Nat.mul_zero, Nat.zero_add] at h
  exact judged_exponentDigits hd.tail hs hstart _ h

theorem judged_exponentPart {text : List Char} (ht : Power text) (hs : significand ≤ maxSignificand)
    (hstart : |start| ≤ 2 ^ 30) (h : Near (significand * 10 ^ (start + powerOf text)) v) :
    Judged v (exponentPart negative significand start text) := by
  obtain ⟨hsign, hd⟩ := ht
  rename_i sign d ds
  have hdigit := hd d List.mem_cons_self
  have hplus : d ≠ '+' := by rintro rfl; exact absurd hdigit (by decide)
  have hminus : d ≠ '-' := by rintro rfl; exact absurd hdigit (by decide)
  simp only [List.mem_cons, List.not_mem_nil, or_false] at hsign
  rcases hsign with rfl | rfl | rfl
  · have hpower : powerOf (d :: ds) = Nat.ofDigitChars 10 (d :: ds) 0 := by
      rw [powerOf]
      · rintro _ ⟨⟩
        exact hplus rfl
      · rintro _ ⟨⟩
        exact hminus rfl
    rw [List.nil_append, hpower] at h
    rw [List.nil_append, exponentPart_of_plain hplus hminus]
    exact judged_powerDigits hd hs hstart (by rwa [if_neg Bool.false_ne_true])
  · show Judged v (powerDigits negative significand start false (d :: ds))
    refine judged_powerDigits hd hs hstart ?_
    rw [if_neg Bool.false_ne_true]
    exact h
  · show Judged v (powerDigits negative significand start true (d :: ds))
    refine judged_powerDigits hd hs hstart ?_
    rw [if_pos rfl]
    exact h

theorem judged_scaledOrExponent {text : List Char} (ht : Exponent text)
    (hs : significand ≤ maxSignificand) (hexp : |exponent| ≤ 2 ^ 30)
    (h : Near (significand * 10 ^ (exponent + exponentOf text)) v) :
    Judged v (scaledOrExponent negative significand exponent text) := by
  cases ht with
  | none => exact judged_scaled hs (by rwa [exponentOf, add_zero] at h)
  | some he ht =>
    rw [List.mem_pair] at he
    rcases he with rfl | rfl <;> exact judged_exponentPart ht hs hexp h

/-! ### Digits that are not kept -/

/-- A number that has no room for another digit has 60 bits at least. -/
theorem two_pow_le_of_full {d : Char} (hd : d.isDigit = true)
    (h : maxSignificand < significand * 10 + (d.toNat - '0'.toNat)) : 2 ^ 60 ≤ significand := by
  have hdigit := digit_le_nine hd
  have hmax : maxSignificand = 2 ^ 64 - 1 := rfl
  omega

/-- The digits behind the point are kept up to some place, and all of them unless there is no more
room. -/
theorem exists_fractionDigits_eq (negative : Bool) (exponent : ℤ) {ds rest : List Char}
    (hd : Digits ds) (hr : DigitFree rest) (hs : significand ≤ maxSignificand) {taken : ℕ}
    (ht : taken = 0 → ds ≠ []) :
    ∃ front back, ds = front ++ back ∧ Nat.ofDigitChars 10 front significand ≤ maxSignificand ∧
      (back = [] ∨ 2 ^ 60 ≤ Nat.ofDigitChars 10 front significand) ∧
      fractionDigits negative exponent significand taken (ds ++ rest) =
        scaledOrExponent negative (Nat.ofDigitChars 10 front significand)
          (exponent - (taken + front.length : ℕ)) rest := by
  induction ds generalizing significand taken with
  | nil =>
    refine ⟨[], [], rfl, hs, .inl rfl, ?_⟩
    exact fractionDigits_of_digitFree hr fun h0 => ht h0 rfl
  | cons d ds ih =>
    have hdigit := hd d List.mem_cons_self
    rw [List.cons_append, fractionDigits, digit?_of_isDigit hdigit]
    simp only
    split
    · rename_i hfull
      refine ⟨[], d :: ds, rfl, hs, .inr (two_pow_le_of_full hdigit hfull), ?_⟩
      rw [dropWhile_digits_append hd.tail hr]
      rfl
    · rename_i hroom
      obtain ⟨front, back, rfl, hmax, hall, he⟩ :=
        ih hd.tail (not_lt.1 hroom) (fun h0 => absurd h0 (Nat.succ_ne_zero taken))
      refine ⟨d :: front, back, rfl, ?_, ?_, ?_⟩
      · rwa [Nat.ofDigitChars_cons, mul_comm 10]
      · rwa [Nat.ofDigitChars_cons, mul_comm 10]
      · rw [he, Nat.ofDigitChars_cons, mul_comm 10, List.length_cons, Nat.succ_add_eq_add_succ]

/-- The digits in front of the point are kept up to some place, and all of them unless there is no
more room. -/
theorem integerDigits_eq_or (negative : Bool) {ds rest : List Char} (hd : Digits ds)
    (hr : DigitFree rest) (hs : significand ≤ maxSignificand) :
    (Nat.ofDigitChars 10 ds significand ≤ maxSignificand ∧
        integerDigits negative significand (ds ++ rest) =
          afterInteger negative (Nat.ofDigitChars 10 ds significand) rest) ∨
      ∃ front back, ds = front ++ back ∧ Nat.ofDigitChars 10 front significand ≤ maxSignificand ∧
        2 ^ 60 ≤ Nat.ofDigitChars 10 front significand ∧
        integerDigits negative significand (ds ++ rest) =
          afterLongInteger negative (Nat.ofDigitChars 10 front significand) back.length rest := by
  induction ds generalizing significand with
  | nil => exact .inl ⟨hs, integerDigits_of_digitFree negative significand hr⟩
  | cons d ds ih =>
    have hdigit := hd d List.mem_cons_self
    rw [List.cons_append, integerDigits, digit?_of_isDigit hdigit]
    simp only
    split
    · rename_i hfull
      refine .inr ⟨[], d :: ds, rfl, hs, two_pow_le_of_full hdigit hfull, ?_⟩
      rw [← List.cons_append, takeWhile_digits_append hd hr, dropWhile_digits_append hd.tail hr]
      rfl
    · rename_i hroom
      rw [Nat.ofDigitChars_cons, mul_comm 10]
      rcases ih hd.tail (not_lt.1 hroom) with hall | ⟨front, back, rfl, hmax, hbits, he⟩
      · exact .inl hall
      · refine .inr ⟨d :: front, back, rfl, ?_, ?_, ?_⟩
        · rwa [Nat.ofDigitChars_cons, mul_comm 10]
        · rwa [Nat.ofDigitChars_cons, mul_comm 10]
        · rw [he, Nat.ofDigitChars_cons, mul_comm 10]

/-! ### What stands behind the digits in front of the point -/

theorem Exponent.digitFree {text : List Char} (h : Exponent text) : DigitFree text := by
  have hfree := h.digitFree_append ended_nil.digitFree
  rwa [List.append_nil] at hfree

theorem Tail.digitFree {text : List Char} (h : Tail text) : DigitFree text := by
  have hfree := h.digitFree_append ended_nil.digitFree
  rwa [List.append_nil] at hfree

theorem judged_fractionDigits {ds text : List Char} (hd : Digits ds) (hne : ds ≠ [])
    (ht : Exponent text) (hs : significand ≤ maxSignificand)
    (hlen : |exponent| + ds.length ≤ 2 ^ 30)
    (h : ∀ front back, ds = front ++ back →
      (back = [] ∨ 2 ^ 60 ≤ Nat.ofDigitChars 10 front significand) →
      Near (Nat.ofDigitChars 10 front significand *
        10 ^ (exponent - front.length + exponentOf text)) v) :
    Judged v (fractionDigits negative exponent significand 0 (ds ++ text)) := by
  obtain ⟨front, back, rfl, hmax, hall, he⟩ :=
    exists_fractionDigits_eq negative exponent hd ht.digitFree hs (fun _ => hne)
  rw [he, Nat.zero_add]
  refine judged_scaledOrExponent ht hmax ?_ (h front back rfl hall)
  rw [List.length_append] at hlen
  obtain ⟨hlow, hhigh⟩ := abs_le.1 (le_refl |exponent|)
  rw [abs_le]
  omega

/-- The digits that are dropped in front of the point are made up for by the exponent. -/
theorem judged_afterLongInteger {dropped text : List Char} (hd : Digits dropped) (ht : Tail text)
    (hs : significand ≤ maxSignificand) (hbits : 2 ^ 60 ≤ significand)
    (hlen : dropped.length + text.length ≤ 2 ^ 30) :
    Judged (decimalOf (Nat.ofDigitChars 10 dropped significand) text)
      (afterLongInteger negative significand dropped.length text) := by
  cases ht with
  | whole ht =>
    have hplain := ht.ne_point_append ended_nil
    rw [List.append_nil] at hplain
    rw [decimalOf_of_exponent _ ht, afterLongInteger_of_plain hplain]
    refine judged_scaledOrExponent ht hs (by rw [Nat.abs_cast]; omega) ?_
    have hworth := worth_between hd significand (dropped.length + exponentOf text)
    rw [add_sub_cancel_left] at hworth
    exact near_of_between hbits (ten_zpow_nonneg _) (between_self _ (ten_zpow_nonneg _)) hworth
  | point hds ht =>
    rename_i d ds text
    show Judged _ (fractionDigits negative dropped.length significand 0 (d :: ds ++ text))
    rw [decimalOf_point _ hds ht.digitFree, ← Nat.ofDigitChars_append]
    refine judged_fractionDigits hds (List.cons_ne_nil _ _) ht hs ?_ fun front back he _ => ?_
    · simp only [List.length_cons, List.length_append] at hlen
      rw [Nat.abs_cast, List.length_cons]
      omega
    · have hfront : Digits front := (digits_append_iff.1 (he ▸ hds)).1
      have hboth : Digits (dropped ++ d :: ds) := digits_append_iff.2 ⟨hd, hds⟩
      have hkept := worth_between hfront significand (dropped.length + exponentOf text)
      have hmeant := worth_between hboth significand (dropped.length + exponentOf text)
      rw [List.length_append, Nat.cast_add, add_sub_add_left_eq_sub] at hmeant
      rw [add_sub_right_comm] at hkept
      exact near_of_between hbits (ten_zpow_nonneg _) hkept hmeant

theorem judged_afterInteger {text : List Char} (ht : Tail text) (hs : significand ≤ maxSignificand)
    (hlen : text.length ≤ 2 ^ 30) :
    Judged (decimalOf significand text) (afterInteger negative significand text) := by
  have hself : ∀ e : ℤ, Near (significand * (10 : ℚ) ^ e) (significand * 10 ^ e) := fun e =>
    near_self (mul_nonneg significand.cast_nonneg (ten_zpow_nonneg e))
  cases ht with
  | whole ht =>
    rw [decimalOf_of_exponent _ ht]
    cases ht with
    | none =>
      have hsmall : (significand : ℚ) * 10 ^ exponentOf [] ≤ limit :=
        le_limit_of_nonpos hs le_rfl (hself _)
      rw [afterInteger_of_plain (by rintro c ⟨⟩)]
      split
      · exact judged_of_small hsmall _
      · split
        · exact judged_scaled hs (hself 0)
        · exact judged_of_small hsmall _
    | some he ht =>
      rename_i e text
      have hpart : Judged (significand * (10 : ℚ) ^ powerOf text)
          (exponentPart negative significand 0 text) :=
        judged_exponentPart ht hs (by norm_num) (by rw [zero_add]; exact hself _)
      rw [List.mem_pair] at he
      rcases he with rfl | rfl <;> exact hpart
  | point hds ht =>
    rename_i d ds text
    show Judged _ (fractionDigits negative 0 significand 0 (d :: ds ++ text))
    rw [decimalOf_point _ hds ht.digitFree]
    refine judged_fractionDigits hds (List.cons_ne_nil _ _) ht hs ?_ fun front back he hall => ?_
    · simp only [List.length_cons, List.length_append] at hlen
      rw [abs_zero, List.length_cons]
      omega
    · have hback : Digits back := (digits_append_iff.1 (he ▸ hds)).2
      rw [he, Nat.ofDigitChars_append, List.length_append, zero_sub, neg_add_eq_sub]
      rcases hall with rfl | hbits
      · exact near_self (mul_nonneg (Nat.cast_nonneg _) (ten_zpow_nonneg _))
      · have hworth := worth_between hback (Nat.ofDigitChars 10 front significand)
          (exponentOf text - front.length)
        rw [sub_sub, ← Nat.cast_add] at hworth
        exact near_of_between hbits (ten_zpow_nonneg _) (between_self _ (ten_zpow_nonneg _)) hworth

/-! ## Whole numerals -/

theorem unsignedOf_append {ds text : List Char} (hd : Digits ds) (h : DigitFree text) :
    unsignedOf (ds ++ text) = decimalOf (Nat.ofDigitChars 10 ds 0) text := by
  rw [unsignedOf, takeWhile_digits_append hd h, dropWhile_digits_append hd h]

theorem judged_number {text : List Char} (h : Unsigned text) (hlen : text.length ≤ 2 ^ 30) :
    Judged (unsignedOf text) (number negative text) := by
  cases h with
  | zero ht =>
    rename_i text
    have hzero : Digits ['0'] := by simp [Digits]
    have hvalue : unsignedOf ('0' :: text) = decimalOf 0 text :=
      unsignedOf_append hzero ht.digitFree
    rw [hvalue, number_zero ht.digitFree]
    rw [List.length_cons] at hlen
    exact judged_afterInteger ht (Nat.zero_le _) (by omega)
  | digits hne hd ht =>
    rename_i d ds text
    have hdigit := hd d List.mem_cons_self
    have hone : d.toNat - '0'.toNat ≤ maxSignificand := (digit_le_nine hdigit).trans (by decide)
    have hvalue : Nat.ofDigitChars 10 (d :: ds) 0 =
        Nat.ofDigitChars 10 ds (d.toNat - '0'.toNat) := by
      rw [Nat.ofDigitChars_cons, Nat.mul_zero, Nat.zero_add]
    rw [unsignedOf_append hd ht.digitFree, hvalue, List.cons_append, number_of_ne_zero hne,
      digit?_of_isDigit hdigit]
    simp only [List.length_append, List.length_cons] at hlen ⊢
    rcases integerDigits_eq_or negative hd.tail ht.digitFree hone with
      ⟨hmax, he⟩ | ⟨front, back, rfl, hmax, hbits, he⟩
    · rw [he]
      exact judged_afterInteger ht hmax (by omega)
    · rw [he, Nat.ofDigitChars_append]
      rw [List.length_append] at hlen
      have hback := (digits_append_iff.1 hd.tail).2
      exact judged_afterLongInteger hback ht hmax hbits (by omega)

end Steps

theorem magnitude_of_isDigit {c : Char} (hc : c.isDigit = true) (cs : List Char) :
    magnitude (c :: cs) = unsignedOf (c :: cs) := by
  rw [magnitude]
  rintro _ ⟨⟩
  exact absurd hc (by decide)

/-- A numeral is read as the number that it stands for is judged. -/
theorem exists_judged_of_numeral {text : List Char} (h : Numeral text)
    (hlen : text.length ≤ 2 ^ 30) :
    ∃ r, Judged (magnitude text) r ∧ scalar text = (do
      let (n, cs) ← r
      .ok (.num n, cs)) := by
  cases h with
  | plain h =>
    refine ⟨number false text, ?_, ?_⟩
    all_goals obtain ⟨d, ds, rfl, hd⟩ := h.exists_cons
    · rw [magnitude_of_isDigit hd]
      exact judged_number h hlen
    · exact scalar_cons_of_isDigit hd ds
  | minus h =>
    rw [List.length_cons] at hlen
    exact ⟨_, judged_number h (by omega), rfl⟩

/-- **A numeral is read** when its number stays below the limit. -/
theorem exists_scalar_of_magnitude_le {text : List Char} (h : Numeral text)
    (hlen : text.length ≤ 2 ^ 30) (hv : magnitude text ≤ limit - limit / 2 ^ 40) :
    ∃ n, Scalar text (.num n) := by
  obtain ⟨r, hr, hscalar⟩ := exists_judged_of_numeral h hlen
  obtain ⟨n, rfl⟩ := hr.taken hv
  exact ⟨n, .number h hscalar⟩

/-- **A numeral is refused** when its number reaches the limit. -/
theorem scalar_of_le_magnitude {text : List Char} (h : Numeral text) (hlen : text.length ≤ 2 ^ 30)
    (hv : limit + limit / 2 ^ 40 ≤ magnitude text) :
    (∃ f, scalar text = .error f ∧ f.reason = .numberOutOfRange) ∧ ∀ v, ¬Scalar text v := by
  obtain ⟨r, hr, hscalar⟩ := exists_judged_of_numeral h hlen
  obtain ⟨f, rfl, hf⟩ := hr.refused hv
  refine ⟨⟨f, hscalar, hf⟩, fun v hs => ?_⟩
  have hread := scalar_append hs ended_nil
  rw [List.append_nil, hscalar] at hread
  cases hread

end Pacts.Json
