import Mathlib.Data.List.Basic
import Pacts.Proofs.Text.Fields
import Pacts.Text.Quoted

/-!
# Quoted texts tell texts apart

A text in a diagnostic stands between double quotes, with some characters written after a backslash
and some by their number.  Nothing is lost by that.  However a character is written, one sees where
it ends (`quoteChar_append_inj`), and none of them looks like the closing quote
(`quoteChar_append_ne`).  So a text is seen whatever stands behind it (`legible_quoted`), and
different texts are shown differently (`quoted_inj`).  A record shows the whole of each of its
fields (`showRecord_inj`).  What a diagnostic shows of a text is therefore all of it, or nothing.
-/

set_option autoImplicit false

namespace Pacts

/-- A way to show things from which one sees what is shown, whatever stands behind it. -/
def Legible {α : Type} (shown : α → String) : Prop :=
  ∀ ⦃a b : α⦄ ⦃s t : String⦄, shown a ++ s = shown b ++ t → a = b

theorem Legible.injective {α : Type} {shown : α → String} (h : Legible shown) :
    Function.Injective shown := by
  intro a b hab
  exact h (congrArg (· ++ "") hab)

namespace Text

/-! ## Numbers -/

theorem digitChar_inj : ∀ m < 16, ∀ n < 16, Nat.digitChar m = Nat.digitChar n → m = n := by
  decide

theorem digitChar_ne_brace : ∀ n < 16, Nat.digitChar n ≠ '}' := by decide

/-- The last digit of a number and those in front of it. -/
theorem toDigits_eq (n : Nat) :
    Nat.toDigits 16 n =
      (if n < 16 then [] else Nat.toDigits 16 (n / 16)) ++ [Nat.digitChar (n % 16)] := by
  rw [Nat.toDigits_eq_if (by decide)]
  split
  · rename_i h
    rw [Nat.mod_eq_of_lt h, List.nil_append]
  · rfl

theorem brace_not_mem_toDigits (n : Nat) : '}' ∉ Nat.toDigits 16 n := by
  induction n using Nat.strongRecOn with
  | ind n ih =>
    have hlast : '}' ≠ Nat.digitChar (n % 16) :=
      (digitChar_ne_brace (n % 16) (Nat.mod_lt n (by decide))).symm
    rw [toDigits_eq, List.mem_append, List.mem_singleton]
    rintro (h | h)
    · split at h
      · cases h
      · exact ih (n / 16) (by omega) h
    · exact hlast h

theorem toDigits_inj {m n : Nat} (h : Nat.toDigits 16 m = Nat.toDigits 16 n) : m = n := by
  induction m using Nat.strongRecOn generalizing n with
  | ind m ih =>
    rw [toDigits_eq m, toDigits_eq n] at h
    obtain ⟨hfront, hlast⟩ := List.append_inj' h rfl
    have hmod : m % 16 = n % 16 :=
      digitChar_inj _ (Nat.mod_lt m (by decide)) _ (Nat.mod_lt n (by decide))
        (List.singleton_inj.1 hlast)
    -- a number of one digit has nothing in front of it, and any other has something
    split at hfront <;> split at hfront
    · omega
    · exact absurd hfront.symm Nat.toDigits_ne_nil
    · exact absurd hfront Nat.toDigits_ne_nil
    · have hdiv : m / 16 = n / 16 := ih (m / 16) (by omega) hfront
      omega

/-! ## Characters -/

/-- The characters that are written by a mark behind a backslash, with their marks. -/
def marks : List (Char × Char) :=
  [('"', '"'), ('\\', '\\'), ('\n', 'n'), ('\r', 'r'), ('\t', 't'), ('\x00', '0')]

theorem mark_inj : ∀ e ∈ marks, ∀ f ∈ marks, e.2 = f.2 → e.1 = f.1 := by decide

theorem mark_ne_u : ∀ e ∈ marks, e.2 ≠ 'u' := by decide

/-- The ways in which a character is written: by itself, by a mark, or by its number. -/
inductive QuotedAs (c : Char) : List Char → Prop
  | plain (hquote : c ≠ '"') (h : c ≠ '\\') : QuotedAs c [c]
  | marked {mark : Char} (h : (c, mark) ∈ marks) : QuotedAs c ['\\', mark]
  | numbered : QuotedAs c ('\\' :: 'u' :: '{' :: (Nat.toDigits 16 c.toNat ++ ['}']))

theorem quotedAs_quoteChar (c : Char) : QuotedAs c (quoteChar c) := by
  rw [quoteChar]
  split
  · subst c; exact .marked (by decide)
  split
  · subst c; exact .marked (by decide)
  split
  · subst c; exact .marked (by decide)
  split
  · subst c; exact .marked (by decide)
  split
  · subst c; exact .marked (by decide)
  split
  · rename_i h
    obtain rfl : c = '\x00' := Char.toNat_inj.1 h
    exact .marked (by decide)
  split
  · exact .plain ‹_› ‹_›
  · exact .numbered

variable {c d : Char} {u v s t : List Char}

/-- A character is seen from the way it is written, whatever stands behind it. -/
theorem QuotedAs.eq_of_append (hc : QuotedAs c u) (hd : QuotedAs d v) (h : u ++ s = v ++ t) :
    c = d := by
  cases hc with
  | plain _ hne =>
    cases hd with
    | plain => exact (List.cons.inj h).1
    | marked | numbered => exact absurd (List.cons.inj h).1 hne
  | marked hm =>
    cases hd with
    | plain _ hne => exact absurd (List.cons.inj h).1.symm hne
    | marked hm' => exact mark_inj _ hm _ hm' (List.cons.inj (List.cons.inj h).2).1
    | numbered => exact absurd (List.cons.inj (List.cons.inj h).2).1 (mark_ne_u _ hm)
  | numbered =>
    cases hd with
    | plain _ hne => exact absurd (List.cons.inj h).1.symm hne
    | marked hm => exact absurd (List.cons.inj (List.cons.inj h).2).1.symm (mark_ne_u _ hm)
    | numbered =>
      have hrest : Nat.toDigits 16 c.toNat ++ '}' :: s = Nat.toDigits 16 d.toNat ++ '}' :: t := by
        simpa using h
      have hdigits : Nat.toDigits 16 c.toNat = Nat.toDigits 16 d.toNat :=
        eq_of_append_sep (brace_not_mem_toDigits _) (brace_not_mem_toDigits _) hrest
      exact Char.toNat_inj.1 (toDigits_inj hdigits)

/-- **One sees where a character ends.** -/
theorem quoteChar_append_inj (h : quoteChar c ++ s = quoteChar d ++ t) : c = d ∧ s = t := by
  obtain rfl := (quotedAs_quoteChar c).eq_of_append (quotedAs_quoteChar d) h
  exact ⟨rfl, List.append_cancel_left h⟩

/-- No character is written so that it looks like the closing quote. -/
theorem quoteChar_append_ne (c : Char) (s t : List Char) : quoteChar c ++ s ≠ '"' :: t := by
  intro h
  have hc := quotedAs_quoteChar c
  generalize quoteChar c = u at hc h
  cases hc with
  | plain hquote => exact hquote (List.cons.inj h).1
  | marked | numbered => exact absurd (List.cons.inj h).1 (by decide)

/-- A text is seen from the way it is written, up to the closing quote. -/
theorem flatMap_quoteChar_inj {cs ds s t : List Char}
    (h : cs.flatMap quoteChar ++ '"' :: s = ds.flatMap quoteChar ++ '"' :: t) : cs = ds := by
  induction cs generalizing ds with
  | nil =>
    cases ds with
    | nil => rfl
    | cons d ds =>
      rw [List.flatMap_cons, List.append_assoc] at h
      exact absurd h.symm (quoteChar_append_ne d _ _)
  | cons c cs ih =>
    cases ds with
    | nil =>
      rw [List.flatMap_cons, List.append_assoc] at h
      exact absurd h (quoteChar_append_ne c _ _)
    | cons d ds =>
      rw [List.flatMap_cons, List.flatMap_cons, List.append_assoc, List.append_assoc] at h
      obtain ⟨rfl, hrest⟩ := quoteChar_append_inj h
      rw [ih hrest]

end Text

theorem toList_quoted_append (a s : String) :
    (quoted a ++ s).toList = '"' :: (a.toList.flatMap Text.quoteChar ++ '"' :: s.toList) := by
  simp [quoted]

/-- A text is seen from a diagnostic, whatever stands behind it there. -/
theorem legible_quoted : Legible quoted := by
  intro a b s t h
  have hlist := congrArg String.toList h
  rw [toList_quoted_append, toList_quoted_append] at hlist
  exact String.toList_inj.1 (Text.flatMap_quoteChar_inj (List.cons.inj hlist).2)

/-- **Different texts are shown differently.** -/
theorem quoted_inj {a b : String} : quoted a = quoted b ↔ a = b := legible_quoted.injective.eq_iff

/-! ## Records -/

theorem commaSeparated_inj {front back : List String} {x y : String} :
    commaSeparated (front ++ x :: back) = commaSeparated (front ++ y :: back) ↔ x = y := by
  simp only [commaSeparated]
  induction front with
  | nil =>
    cases back with
    | nil => simp
    | cons z back =>
      rw [List.nil_append, List.nil_append, String.intercalate_cons_cons,
        String.intercalate_cons_cons, String.append_left_inj, String.append_left_inj]
  | cons w front ih =>
    rw [List.cons_append, List.cons_append, String.intercalate_cons_of_ne_nil (by simp),
      String.intercalate_cons_of_ne_nil (by simp), String.append_right_inj, ih]

/-- **A record shows all of a field.**  Two records that differ in one field only are shown
differently. -/
theorem showRecord_inj (front back : List (String × String)) {name label x y : String}
    {hidesMore : Bool} :
    showRecord name (front ++ (label, x) :: back) hidesMore =
      showRecord name (front ++ (label, y) :: back) hidesMore ↔ x = y := by
  cases hidesMore with
  | false =>
    simp only [showRecord, String.append_left_inj, String.append_right_inj, List.map_append,
      List.map_cons, Bool.false_eq_true, if_false, commaSeparated_inj]
  | true =>
    simp only [showRecord, String.append_left_inj, String.append_right_inj, List.map_append,
      List.map_cons, if_true, List.append_assoc, List.cons_append, commaSeparated_inj]

end Pacts
