import Mathlib.Data.List.Forall2
import Pacts.Proofs.Text.Quoted

/-!
# What is seen from a record

A record in a diagnostic is written without marks for where its fields end, other than a comma and a
space, and these can also stand inside of a field.  Nevertheless the fields are seen from the text of
the record when each of them is shown so that one sees where it ends.  Of the texts that a field can
have, none then goes on where another one ends (`Delimited`), and two records can be compared from
the left (`fields_eq_of_showRecord`).

A list of quoted texts is shown in this way (`legible_quotedList`), however long it is, because of the
bracket behind it.  A number is not: another digit could follow.  It is seen only with a bracket of
its own (`number_append_inj`).
-/

set_option autoImplicit false

namespace Pacts

/-- Of two texts that start in the same way, neither goes on where the other one ends. -/
def Delimited (u v : String) : Prop := ∀ ⦃s t : String⦄, u ++ s = v ++ t → u = v

variable {u v s t : String}

theorem Legible.delimited {α : Type} {shown : α → String} (h : Legible shown) (a b : α) :
    Delimited (shown a) (shown b) := fun _ _ he => congrArg shown (h he)

theorem Delimited.refl (u : String) : Delimited u u := fun _ _ _ => rfl

theorem Delimited.append_left (h : Delimited u v) (front : String) :
    Delimited (front ++ u) (front ++ v) := by
  intro s t he
  rw [String.append_assoc, String.append_assoc, String.append_right_inj] at he
  rw [h he]

/-! ## Truth values and numbers -/

theorem legible_bool : Legible (toString : Bool → String) := by
  intro a b s t h
  have hlist := congrArg String.toList h
  cases a <;> cases b <;> simp [toString] at hlist ⊢

/-- A number is seen from its digits when a bracket follows. -/
theorem number_append_inj {m n : Nat} (h : toString m ++ (")" ++ s) = toString n ++ (")" ++ t)) :
    m = n := by
  have hlist := congrArg String.toList h
  have hdigits : ∀ k : Nat, (toString k).toList = Nat.toDigits 10 k := fun _ => Nat.toList_repr
  have hbracket : ∀ k : Nat, ')' ∉ Nat.toDigits 10 k := fun k hmem =>
    absurd (Nat.isDigit_of_mem_toDigits (by decide) (by decide) hmem) (by decide)
  simp only [String.toList_append, hdigits] at hlist
  have heq := Text.eq_of_append_sep (hbracket m) (hbracket n) hlist
  rw [← Nat.ofDigitChars_toDigits (b := 10) (n := m) (by decide) (by decide), heq,
    Nat.ofDigitChars_toDigits (by decide) (by decide)]

/-! ## Lists -/

theorem commaSeparated_cons (x : String) (xs : List String) :
    commaSeparated (x :: xs) = x ++ String.join (xs.map (", " ++ ·)) := by
  simp only [commaSeparated]
  induction xs generalizing x with
  | nil => simp
  | cons y ys ih =>
    rw [String.intercalate_cons_cons, ih, List.map_cons, String.join_cons, String.append_assoc,
      String.append_assoc]

/-- Texts in a row are seen when as many of them are expected. -/
theorem join_eq_of_forall₂ {xs ys : List String} (h : List.Forall₂ Delimited xs ys)
    (he : String.join (xs.map (", " ++ ·)) ++ s = String.join (ys.map (", " ++ ·)) ++ t) :
    xs = ys := by
  induction h with
  | nil => rfl
  | cons hxy _ ih =>
    simp only [List.map_cons, String.join_cons, String.append_assoc, String.append_right_inj] at he
    obtain rfl := hxy he
    rw [ih (by simpa only [String.append_right_inj] using he)]

/-- The first text of a row has no comma in front of it. -/
theorem commaSeparated_eq_of_forall₂ {xs ys : List String} (h : List.Forall₂ Delimited xs ys)
    (he : commaSeparated xs ++ s = commaSeparated ys ++ t) : xs = ys := by
  cases h with
  | nil => rfl
  | cons hxy hrest =>
    rw [commaSeparated_cons, commaSeparated_cons, String.append_assoc, String.append_assoc] at he
    obtain rfl := hxy he
    rw [join_eq_of_forall₂ hrest ((String.append_right_inj _).1 he)]

/-- The bracket shows that a list of quoted texts does not go on. -/
theorem join_quoted_inj {as bs : List String}
    (h : String.join ((as.map quoted).map (", " ++ ·)) ++ ("]" ++ s) =
      String.join ((bs.map quoted).map (", " ++ ·)) ++ ("]" ++ t)) : as = bs := by
  induction as generalizing bs with
  | nil =>
    cases bs with
    | nil => rfl
    | cons b bs => exact absurd (congrArg String.toList h) (by simp)
  | cons a as ih =>
    cases bs with
    | nil => exact absurd (congrArg String.toList h) (by simp)
    | cons b bs =>
      simp only [List.map_cons, String.join_cons, String.append_assoc, String.append_right_inj] at h
      obtain rfl := legible_quoted h
      rw [ih ((String.append_right_inj _).1 h)]

theorem quoted_append_ne_bracket (a s t : String) : quoted a ++ s ≠ "]" ++ t := by
  intro h
  have hlist := congrArg String.toList h
  rw [toList_quoted_append, String.toList_append] at hlist
  exact absurd (List.cons.inj hlist).1 (by decide)

/-- A list of quoted texts is seen. -/
theorem legible_quotedList : Legible quotedList := by
  intro as bs s t h
  simp only [quotedList, String.append_assoc, String.append_right_inj] at h
  cases as with
  | nil =>
    cases bs with
    | nil => rfl
    | cons b bs =>
      rw [List.map_cons, commaSeparated_cons, String.append_assoc] at h
      exact absurd (h.symm.trans (String.empty_append ..)) (quoted_append_ne_bracket b _ _)
  | cons a as =>
    cases bs with
    | nil =>
      rw [List.map_cons, commaSeparated_cons, String.append_assoc] at h
      exact absurd (h.trans (String.empty_append ..)) (quoted_append_ne_bracket a _ _)
    | cons b bs =>
      simp only [List.map_cons, commaSeparated_cons, String.append_assoc] at h
      obtain rfl := legible_quoted h
      rw [join_quoted_inj ((String.append_right_inj _).1 h)]

/-! ## Records -/

/-- Two ways to fill a record: the fields have the same labels, and one sees where each of them
ends. -/
def SameLabels (fields fields' : List (String × String)) : Prop :=
  List.Forall₂ (fun x y => x.1 = y.1 ∧ Delimited x.2 y.2) fields fields'

/-- A field as it is shown. -/
def labelled (field : String × String) : String := field.1 ++ ": " ++ field.2

theorem SameLabels.delimited {fields fields' : List (String × String)}
    (h : SameLabels fields fields') :
    List.Forall₂ Delimited (fields.map labelled) (fields'.map labelled) := by
  rw [List.forall₂_map_left_iff, List.forall₂_map_right_iff]
  refine h.imp fun x y hxy => ?_
  rw [labelled, labelled, hxy.1]
  exact hxy.2.append_left _

theorem SameLabels.eq_of_map_labelled {fields fields' : List (String × String)}
    (h : SameLabels fields fields') (he : fields.map labelled = fields'.map labelled) :
    fields = fields' := by
  induction h with
  | nil => rfl
  | @cons x y _ _ hxy _ ih =>
    obtain ⟨hhead, htail⟩ := List.cons.inj he
    rw [labelled, labelled, hxy.1, String.append_right_inj] at hhead
    rw [ih htail, Prod.ext hxy.1 hhead]

theorem showRecord_eq (name : String) (fields : List (String × String)) (hidesMore : Bool) :
    showRecord name fields hidesMore =
      name ++ " \x7b " ++ commaSeparated (fields.map labelled ++ if hidesMore then [".."] else []) ++
        " \x7d" := by
  cases hidesMore with
  | true => rfl
  | false =>
    rw [if_neg Bool.false_ne_true, List.append_nil]
    rfl

/-- **The fields of a record are seen from its text.** -/
theorem fields_eq_of_showRecord {name : String} {fields fields' : List (String × String)}
    {hidesMore : Bool} (h : SameLabels fields fields')
    (he : showRecord name fields hidesMore ++ s = showRecord name fields' hidesMore ++ t) :
    fields = fields' := by
  simp only [showRecord_eq, String.append_assoc, String.append_right_inj] at he
  have hitems := commaSeparated_eq_of_forall₂ (List.rel_append h.delimited
    (List.forall₂_same.2 fun u _ => Delimited.refl u)) he
  exact h.eq_of_map_labelled (List.append_cancel_right hitems)

end Pacts
