import Mathlib.Data.List.DropRight
import Mathlib.Data.List.Forall2
import Pacts.Proofs.Json.Numerals
import Pacts.Proofs.Json.Quoting

/-!
# Laid out values are read back

A value can be laid out in many ways: blanks may stand in front of every item and member and in
front of a closing bracket.  `Reads depth text v` says that `text` is one of the ways to write `v`,
in front of anything that ends a number.  The items of a list are read one after the other, so the
text of a list reads as the list of what the texts of its items read as (`reads_list`), and the same
goes for the members of an object (`reads_object`).
-/

set_option autoImplicit false

namespace Pacts.Json

/-! ## Blanks -/

/-- Only blanks. -/
def Blank (cs : List Char) : Prop := ∀ c ∈ cs, isSpace c = true

theorem skipSpaces_append {blanks : List Char} (h : Blank blanks) (cs : List Char) :
    skipSpaces (blanks ++ cs) = skipSpaces cs := by
  rw [skipSpaces, List.dropWhile_append_of_pos h]
  rfl

theorem skipSpaces_cons {c : Char} (h : isSpace c = false) (cs : List Char) :
    skipSpaces (c :: cs) = c :: cs := by
  rw [skipSpaces, List.dropWhile_cons_of_neg (by simp [h])]

theorem value_skipSpaces (depth : Nat) (cs : List Char) :
    value depth (skipSpaces cs) = value depth cs := by
  have h : skipSpaces (skipSpaces cs) = skipSpaces cs := List.dropWhile_idempotent isSpace cs
  cases depth <;> rw [value, value, h]

/-! ## What ends a number -/

theorem ended_comma (rest : List Char) : Ended (',' :: rest) := by
  rintro c ⟨⟩
  decide

theorem ended_blank_append {blanks rest : List Char} (hb : Blank blanks) (h : Ended rest) :
    Ended (blanks ++ rest) := by
  cases blanks with
  | nil => exact h
  | cons b blanks =>
    rintro c ⟨⟩
    have hb : b = ' ' ∨ b = '\t' ∨ b = '\n' ∨ b = '\r' := by
      simpa [isSpace, or_assoc] using hb b List.mem_cons_self
    rcases hb with rfl | rfl | rfl | rfl <;> decide

/-! ## Texts of values -/

/-- What is read as a scalar starts neither with a blank nor with a bracket. -/
theorem exists_cons_of_scalar_eq_ok {cs rest : List Char} {v : Json}
    (h : scalar cs = .ok (v, rest)) :
    ∃ c cs', cs = c :: cs' ∧ ∀ d ∈ [' ', '\t', '\n', '\r', '[', '{', ']'], c ≠ d := by
  cases cs with
  | nil => simp [scalar] at h
  | cons c cs =>
    refine ⟨c, cs, rfl, ?_⟩
    rintro d hd rfl
    simp only [List.mem_cons, List.not_mem_nil, or_false] at hd
    rcases hd with rfl | rfl | rfl | rfl | rfl | rfl | rfl <;> simp [scalar] at h

/-- A scalar is read as a value at any depth. -/
theorem value_of_scalar (depth : Nat) {cs rest : List Char} {v : Json}
    (h : scalar cs = .ok (v, rest)) : value depth cs = .ok (v, rest) := by
  obtain ⟨c, cs, rfl, hc⟩ := exists_cons_of_scalar_eq_ok h
  have hspace : isSpace c = false := by
    simp [isSpace, hc ' ', hc '\t', hc '\n', hc '\r']
  have hlist : c ≠ '[' := hc _ (by simp)
  have hobject : c ≠ '{' := hc _ (by simp)
  cases depth <;> simp [value, skipSpaces_cons hspace, hlist, hobject, h]

/-- A text is read as a value, in front of anything that ends a number. -/
def Reads (depth : Nat) (text : List Char) (v : Json) : Prop :=
  ∀ rest, Ended rest → value depth (text ++ rest) = .ok (v, rest)

namespace Reads

variable {depth : Nat} {text : List Char} {v : Json}

/-- Blanks may stand in front of a value. -/
theorem blank_append {blanks : List Char} (hb : Blank blanks) (h : Reads depth text v) :
    Reads depth (blanks ++ text) v := by
  intro rest hr
  rw [← value_skipSpaces, List.append_assoc, skipSpaces_append hb, value_skipSpaces]
  exact h rest hr

/-- A scalar is a value, however deep it stands. -/
theorem of_scalar (h : ∀ rest, Ended rest → scalar (text ++ rest) = .ok (v, rest)) :
    Reads depth text v :=
  fun rest hr => value_of_scalar depth (h rest hr)

end Reads

/-- What is read as a value does not start with the end of a list. -/
theorem exists_skipSpaces_of_value_eq_ok {depth : Nat} {cs rest : List Char} {v : Json}
    (h : value depth cs = .ok (v, rest)) : ∃ c cs', skipSpaces cs = c :: cs' ∧ c ≠ ']' := by
  have hscalar : ∀ {cs}, scalar cs = .ok (v, rest) → ∃ c cs', cs = c :: cs' ∧ c ≠ ']' := by
    intro cs h
    obtain ⟨c, cs, rfl, hc⟩ := exists_cons_of_scalar_eq_ok h
    exact ⟨c, cs, rfl, hc _ (by simp)⟩
  cases depth with
  | zero =>
    rw [value] at h
    split at h
    · cases h
    · cases h
    · exact hscalar h
  | succ depth =>
    rw [value] at h
    split at h
    · rename_i heq; exact ⟨_, _, heq, by decide⟩
    · rename_i heq; exact ⟨_, _, heq, by decide⟩
    · exact hscalar h

/-! ## Loops -/

/-- Texts with a comma in front of all but the first. -/
def joined : List (List Char) → List Char
  | [] => []
  | text :: texts => text ++ texts.flatMap (',' :: ·)

theorem ended_flatMap (texts : List (List Char)) {rest : List Char} (h : Ended rest) :
    Ended (texts.flatMap (',' :: ·) ++ rest) := by
  cases texts with
  | nil => exact h
  | cons text texts => exact ended_comma _

theorem length_le_commas (texts : List (List Char)) :
    texts.length ≤ (texts.flatMap (',' :: ·)).length :=
  length_le_flatMap (fun _ => by simp) texts

/-- A loop that takes one piece from behind every comma, and stops in front of `tail`, takes the
pieces of a text one after the other. -/
theorem loop_rest {α : Type} (loop : Nat → List α → List Char → Reading (List α × List Char))
    {IsText : List Char → α → Prop} {tail rest : List Char} (htail : Ended tail)
    (hstep : ∀ fuel soFar text a rest, IsText text a → Ended rest →
      loop (fuel + 1) soFar (',' :: (text ++ rest)) = loop fuel (a :: soFar) rest)
    (hclose : ∀ fuel soFar, loop (fuel + 1) soFar tail = .ok (soFar.reverse, rest))
    {texts : List (List Char)} {pieces : List α} (h : List.Forall₂ IsText texts pieces) :
    ∀ (fuel : Nat) (soFar : List α), texts.length < fuel →
      loop fuel soFar (texts.flatMap (',' :: ·) ++ tail) = .ok (soFar.reverse ++ pieces, rest) := by
  induction h with
  | nil =>
    intro fuel soFar hf
    obtain ⟨fuel, rfl⟩ := Nat.exists_eq_succ_of_ne_zero (Nat.ne_of_gt hf)
    rw [List.append_nil]
    exact hclose fuel soFar
  | @cons text a texts pieces ht _ ih =>
    intro fuel soFar hf
    obtain ⟨fuel, rfl⟩ := Nat.exists_eq_succ_of_ne_zero (Nat.ne_of_gt (Nat.zero_lt_of_lt hf))
    rw [List.flatMap_cons, List.append_assoc, List.cons_append,
      hstep fuel soFar _ _ _ ht (ended_flatMap texts htail),
      ih fuel (a :: soFar) (Nat.lt_of_succ_lt_succ hf)]
    simp

/-! ## Lists -/

section Lists

variable {depth : Nat} {cs rest : List Char} {v : Json} (fuel : Nat) (soFar : List Json)

/-- The first item is read from behind the bracket. -/
theorem items_first (h : value depth cs = .ok (v, rest)) :
    items (value depth) (fuel + 1) true soFar cs =
      items (value depth) fuel false (v :: soFar) rest := by
  obtain ⟨c, cs', hs, hc⟩ := exists_skipSpaces_of_value_eq_ok h
  rw [← value_skipSpaces, hs] at h
  rw [items, hs]
  simp only [↓reduceIte]
  simp only [bind, Except.bind, h]

/-- Any other item is read from behind a comma. -/
theorem items_next (h : value depth cs = .ok (v, rest)) :
    items (value depth) (fuel + 1) false soFar (',' :: cs) =
      items (value depth) fuel false (v :: soFar) rest := by
  obtain ⟨c, cs', hs, hc⟩ := exists_skipSpaces_of_value_eq_ok h
  rw [← value_skipSpaces, hs] at h
  rw [items, skipSpaces_cons (by decide)]
  simp [hs, hc, bind, Except.bind, h]

/-- The bracket ends the list. -/
theorem items_close (first : Bool) {blanks : List Char} (hb : Blank blanks) :
    items (value depth) (fuel + 1) first soFar (blanks ++ ']' :: rest) =
      .ok (soFar.reverse, rest) := by
  rw [items, skipSpaces_append hb, skipSpaces_cons (by decide)]
  rfl

end Lists

theorem value_bracket (depth : Nat) (cs : List Char) :
    value (depth + 1) ('[' :: cs) = (do
      let (vs, cs) ← items (value depth) (cs.length + 1) true [] cs
      .ok (.arr vs, cs)) := rfl

/-- **A list is read back** when its items are, whatever blanks stand in front of the bracket that
closes it. -/
theorem reads_list {depth : Nat} {texts : List (List Char)} {vs : List Json}
    (h : List.Forall₂ (Reads depth) texts vs) {blanks : List Char} (hb : Blank blanks) :
    Reads (depth + 1) ('[' :: (joined texts ++ (blanks ++ [']']))) (.arr vs) := by
  intro rest hr
  have hclose : Ended (blanks ++ ']' :: rest) := ended_blank_append hb (by rintro c ⟨⟩; decide)
  rw [List.cons_append, value_bracket, List.append_assoc, List.append_assoc]
  simp only [List.cons_append, List.nil_append]
  cases h with
  | nil =>
    rw [joined, List.nil_append, items_close _ _ _ hb]
    rfl
  | @cons text v texts vs ht hts =>
    have hlength := length_le_commas texts
    have hrest := loop_rest (items (value depth) · false · ·) hclose
      (fun fuel soFar _ _ _ ht hr => items_next fuel soFar (ht _ hr))
      (fun fuel soFar => items_close fuel soFar false hb) hts
    rw [joined, List.append_assoc, items_first _ _ (ht _ (ended_flatMap texts hclose)),
      hrest _ _ (by simp only [List.length_append, List.length_cons]; omega)]
    rfl

/-! ## Objects -/

/-- A text is read as a member of an object, in front of anything that ends a number. -/
def ReadsMember (depth : Nat) (text : List Char) (m : String × Json) : Prop :=
  ∀ rest, Ended rest → ∃ cs, skipSpaces (text ++ rest) = '"' :: cs ∧
    member (value depth) cs = .ok (m, rest)

/-- A name in quotes, a colon and the text of a value make a member, wherever blanks stand. -/
theorem readsMember_of_reads {depth : Nat} {text blanks : List Char} {v : Json} (hb : Blank blanks)
    (name : String) (h : Reads depth text v) :
    ReadsMember depth (blanks ++ ((quote name).toList ++ ':' :: text)) (name, v) := by
  intro rest hr
  refine ⟨name.toList.flatMap escapeChar ++ '"' :: ':' :: (text ++ rest), ?_, ?_⟩
  · rw [toList_quote, List.append_assoc, skipSpaces_append hb]
    simp only [List.cons_append, List.append_assoc, List.nil_append]
    exact skipSpaces_cons (by decide) _
  · rw [member, string_escaped, String.ofList_toList]
    simp only [bind, Except.bind, skipSpaces_cons (show isSpace ':' = false by decide), h rest hr]

section Objects

variable {depth : Nat} {cs cs' rest : List Char} {m : String × Json} (fuel : Nat)
  (soFar : List (String × Json))

/-- The first member is read from behind the brace. -/
theorem members_first (hs : skipSpaces cs = '"' :: cs')
    (h : member (value depth) cs' = .ok (m, rest)) :
    members (value depth) (fuel + 1) true soFar cs =
      members (value depth) fuel false (m :: soFar) rest := by
  rw [members, hs]
  simp [bind, Except.bind, h]

/-- Any other member is read from behind a comma. -/
theorem members_next (hs : skipSpaces cs = '"' :: cs')
    (h : member (value depth) cs' = .ok (m, rest)) :
    members (value depth) (fuel + 1) false soFar (',' :: cs) =
      members (value depth) fuel false (m :: soFar) rest := by
  rw [members, skipSpaces_cons (by decide)]
  simp [hs, bind, Except.bind, h]

/-- The brace ends the object. -/
theorem members_close (first : Bool) {blanks : List Char} (hb : Blank blanks) :
    members (value depth) (fuel + 1) first soFar (blanks ++ '}' :: rest) =
      .ok (soFar.reverse, rest) := by
  rw [members, skipSpaces_append hb, skipSpaces_cons (by decide)]
  rfl

end Objects

theorem value_brace (depth : Nat) (cs : List Char) :
    value (depth + 1) ('{' :: cs) = (do
      let (ms, cs) ← members (value depth) (cs.length + 1) true [] cs
      .ok (ofMembers ms, cs)) := rfl

/-- **An object is read back** when its members are, whatever blanks stand in front of the brace
that closes it. -/
theorem reads_object {depth : Nat} {texts : List (List Char)} {ms : List (String × Json)}
    (h : List.Forall₂ (ReadsMember depth) texts ms) {blanks : List Char} (hb : Blank blanks) :
    Reads (depth + 1) ('{' :: (joined texts ++ (blanks ++ ['}']))) (ofMembers ms) := by
  intro rest hr
  have hclose : Ended (blanks ++ '}' :: rest) := ended_blank_append hb (by rintro c ⟨⟩; decide)
  rw [List.cons_append, value_brace, List.append_assoc, List.append_assoc]
  simp only [List.cons_append, List.nil_append]
  cases h with
  | nil =>
    rw [joined, List.nil_append, members_close _ _ _ hb]
    rfl
  | @cons text m texts ms ht hts =>
    have hlength := length_le_commas texts
    have hrest := loop_rest (members (value depth) · false · ·) hclose
      (fun fuel soFar _ _ _ ht hr => by
        obtain ⟨cs, hs, hm⟩ := ht _ hr
        exact members_next fuel soFar hs hm)
      (fun fuel soFar => members_close fuel soFar false hb) hts
    obtain ⟨cs, hs, hm⟩ := ht _ (ended_flatMap texts hclose)
    rw [joined, List.append_assoc, members_first _ _ hs hm,
      hrest _ _ (by simp only [List.length_append, List.length_cons]; omega)]
    rfl

end Pacts.Json
