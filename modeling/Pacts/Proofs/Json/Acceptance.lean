import Pacts.Proofs.Json.Characters
import Pacts.Proofs.Json.Decimals

/-!
# The reader takes the texts of JSON

A text is read as a value exactly when the grammar says that it stands for that value
(`read_eq_ok_iff`).

One direction takes apart what was read, from the front: what is left behind it is the rest of the
text.  The other needs to know that the reader stops where a value ends.  It does, unless a number
goes on, so a value is read in front of anything that ends a number (`Reads`).

Lists and objects are read by two loops that differ only in what they read at every turn.  `Loops`
says what such a loop does in one turn, and `Course` what it goes through in all of them; from these
both directions are shown once (`Loops.eq_ok_iff`).
-/

set_option autoImplicit false

namespace Pacts.Json

/-! ## Scalars -/

theorem word_eq_ok_iff {value v : Json} {expected cs rest : List Char} :
    word value expected cs = .ok (v, rest) ↔ v = value ∧ cs = expected ++ rest := by
  induction expected generalizing cs with
  | nil =>
    simp only [word, Except.ok.injEq, Prod.mk.injEq, List.nil_append]
    exact and_congr_left' eq_comm
  | cons e expected ih =>
    cases cs with
    | nil => simp [word]
    | cons c cs =>
      by_cases hc : c = e
      · subst hc
        rw [word, if_pos rfl, ih]
        simp
      · simp [word, hc]

theorem Unsigned.exists_cons {text : List Char} (h : Unsigned text) :
    ∃ d ds, text = d :: ds ∧ d.isDigit = true := by
  cases h with
  | zero => exact ⟨'0', _, rfl, by decide⟩
  | digits _ hd => exact ⟨_, _, rfl, hd _ List.mem_cons_self⟩

/-- What is read as a number has the form of one, and is read in front of anything else that ends
it. -/
theorem exists_numeral_of_scalar {cs rest : List Char} {n : Number}
    (h : scalar cs = .ok (.num n, rest)) :
    ∃ text, cs = text ++ rest ∧ Numeral text ∧
      ∀ other, Ended other → scalar (text ++ other) = .ok (.num n, other) := by
  rw [scalar.eq_def] at h
  split at h
  · cases h
  · cases (word_eq_ok_iff.1 h).1
  · cases (word_eq_ok_iff.1 h).1
  · cases (word_eq_ok_iff.1 h).1
  · obtain ⟨_, -, hs⟩ := bind_eq_ok_iff.1 h
    cases hs
  · obtain ⟨_, hn, hs⟩ := bind_eq_ok_iff.1 h
    cases hs
    obtain ⟨text, rfl, hu, hother⟩ := takes_number _ _ _ hn
    refine ⟨'-' :: text, rfl, .minus hu, fun other ho => ?_⟩
    rw [List.cons_append, scalar, hother other ho]
    rfl
  · split at h
    · obtain ⟨_, hn, hs⟩ := bind_eq_ok_iff.1 h
      cases hs
      obtain ⟨text, he, hu, hother⟩ := takes_number _ _ _ hn
      refine ⟨text, he, .plain hu, fun other ho => ?_⟩
      obtain ⟨d, ds, rfl, hd⟩ := hu.exists_cons
      rw [List.cons_append, scalar_cons_of_isDigit hd, ← List.cons_append, hother other ho]
      rfl
    · cases h

theorem ended_nil : Ended [] := by rintro c ⟨⟩

theorem exists_scalar_of_eq_ok {cs rest : List Char} {v : Json} (h : scalar cs = .ok (v, rest)) :
    ∃ text, cs = text ++ rest ∧ Scalar text v := by
  -- which number is meant can only be said once the text of the number has been split off
  by_cases hn : ∃ n, v = .num n
  · obtain ⟨n, rfl⟩ := hn
    obtain ⟨text, rfl, hnumeral, hother⟩ := exists_numeral_of_scalar h
    have hend := hother [] ended_nil
    rw [List.append_nil] at hend
    exact ⟨text, rfl, .number hnumeral hend⟩
  · rw [scalar.eq_def] at h
    split at h
    · cases h
    · obtain ⟨rfl, rfl⟩ := word_eq_ok_iff.1 h
      exact ⟨_, rfl, .null⟩
    · obtain ⟨rfl, rfl⟩ := word_eq_ok_iff.1 h
      exact ⟨_, rfl, .true⟩
    · obtain ⟨rfl, rfl⟩ := word_eq_ok_iff.1 h
      exact ⟨_, rfl, .false⟩
    · obtain ⟨⟨s, behind⟩, hs, hv⟩ := bind_eq_ok_iff.1 h
      cases hv
      obtain ⟨text, chars, rfl, hchars, rfl⟩ := string_eq_ok_iff.1 hs
      exact ⟨'"' :: (text ++ ['"']), by simp, .string hchars⟩
    · obtain ⟨_, -, hv⟩ := bind_eq_ok_iff.1 h
      cases hv
      exact absurd ⟨_, rfl⟩ hn
    · split at h
      · obtain ⟨_, -, hv⟩ := bind_eq_ok_iff.1 h
        cases hv
        exact absurd ⟨_, rfl⟩ hn
      · cases h

theorem scalar_append {text other : List Char} {v : Json} (h : Scalar text v) (ho : Ended other) :
    scalar (text ++ other) = .ok (v, other) := by
  cases h with
  | null => rfl
  | true => rfl
  | false => rfl
  | @string text cs h =>
    have hs : string (text ++ (['"'] ++ other)) = .ok (String.ofList cs, other) :=
      string_eq_ok_iff.2 ⟨text, cs, rfl, h, rfl⟩
    rw [List.cons_append, List.append_assoc, scalar, hs]
    rfl
  | number _ rounded =>
    obtain ⟨text, he, -, hother⟩ := exists_numeral_of_scalar rounded
    rw [List.append_nil] at he
    subst he
    exact hother other ho

/-! ## Blanks -/

theorem exists_blank_append_skipSpaces (cs : List Char) :
    ∃ blanks, Blank blanks ∧ cs = blanks ++ skipSpaces cs :=
  ⟨cs.takeWhile isSpace, fun _ h => List.mem_takeWhile_imp h,
    List.takeWhile_append_dropWhile.symm⟩

theorem ended_blank {blanks : List Char} (h : Blank blanks) : Ended blanks := by
  simpa using ended_blank_append h ended_nil

/-! ## Loops -/

theorem blank_nil : Blank [] := by rintro c ⟨⟩

theorem Blank.append {left right : List Char} (hl : Blank left) (hr : Blank right) :
    Blank (left ++ right) := by
  intro c hc
  rcases List.mem_append.1 hc with hc | hc
  · exact hl c hc
  · exact hr c hc

/-- What stands in front of an item or member: blanks, and a comma unless it is the first. -/
def Before : (first : Bool) → List Char → Prop
  | true, front => Blank front
  | false, front => ∃ blanks left, front = blanks ++ ',' :: left ∧ Blank blanks ∧ Blank left

theorem Before.append {first : Bool} {front left : List Char} (hf : Before first front)
    (hl : Blank left) : Before first (front ++ left) := by
  cases first with
  | true => exact Blank.append hf hl
  | false =>
    obtain ⟨blanks, left', rfl, hb, hl'⟩ := hf
    exact ⟨blanks, left' ++ left, by simp, hb, hl'.append hl⟩

section Loops

variable {α : Type} {Part : List Char → α → Prop} {first : Bool} {text : List Char} {as : List α}

/-- What a loop goes through: items or members, each with what stands in front of it, and blanks at
the end. -/
inductive Course (Part : List Char → α → Prop) : (first : Bool) → List Char → List α → Prop
  | stop {first : Bool} {blanks : List Char} (h : Blank blanks) : Course Part first blanks []
  | go {first : Bool} {front text others : List Char} {a : α} {as : List α}
      (hf : Before first front) (h : Part text a) (hs : Course Part false others as) :
      Course Part first (front ++ (text ++ others)) (a :: as)

theorem Parts.blank_append {left : List Char} (hl : Blank left) (h : Parts Part text as) :
    Parts Part (left ++ text) as := by
  have spaced : ∀ {text : List Char} {a : α},
      Spaced Part text a → Spaced Part (left ++ text) a := by
    rintro _ a (⟨hl', hr, h⟩)
    rw [← List.append_assoc]
    exact .around (hl.append hl') hr h
  cases h with
  | one h => exact .one (spaced h)
  | more h hs =>
    rw [← List.append_assoc]
    exact .more (spaced h) hs

theorem Parts.course {front : List Char} (hf : Before first front) (h : Parts Part text as) :
    Course Part first (front ++ text) as := by
  induction h generalizing first front with
  | one h =>
    obtain ⟨hl, hr, h⟩ := h
    rw [← List.append_assoc]
    exact .go (hf.append hl) h (.stop hr)
  | more h _ ih =>
    obtain ⟨hl, hr, h⟩ := h
    have hcomma : Before false (_ ++ [',']) := ⟨_, [], rfl, hr, blank_nil⟩
    have hcourse := Course.go (hf.append hl) h (ih hcomma)
    simpa using hcourse

theorem Course.parts (h : Course Part first text as) :
    (Blank text ∧ as = []) ∨ ∃ front inner, text = front ++ inner ∧ Before first front ∧
      Parts Part inner as := by
  induction h with
  | stop h => exact .inl ⟨h, rfl⟩
  | @go first front text others a as hf h hs ih =>
    refine .inr ⟨front, text ++ others, rfl, hf, ?_⟩
    rcases ih with ⟨hb, rfl⟩ | ⟨_, inner, rfl, ⟨blanks, left, rfl, hb, hl⟩, hp⟩
    · exact .one (.around blank_nil hb h)
    · have hmore := Parts.more (.around blank_nil hb h) (hp.blank_append hl)
      simpa using hmore

/-- What stands between two brackets is what a loop goes through from behind the first of them. -/
theorem course_true_iff : Course Part true text as ↔ Inside Part text as := by
  constructor
  · intro h
    rcases h.parts with ⟨hb, rfl⟩ | ⟨front, inner, rfl, hf, hp⟩
    · exact .empty hb
    · exact .parts (hp.blank_append hf)
  · rintro (hb | hp)
    · exact .stop hb
    · have hfront : Before true [] := blank_nil
      exact hp.course hfront

theorem Course.ended_append {rest : List Char} (h : Course Part false text as)
    (hr : Ended rest) : Ended (text ++ rest) := by
  cases h with
  | stop hb => exact ended_blank_append hb hr
  | go hf _ _ =>
    obtain ⟨blanks, left, rfl, hb, -⟩ := hf
    simp only [List.append_assoc, List.cons_append]
    exact ended_blank_append hb (ended_comma _)

theorem Course.length_le (h : Course Part first text as) :
    as.length ≤ text.length + first.toNat := by
  induction h with
  | stop => exact Nat.zero_le _
  | @go first front _ _ _ _ hf _ _ ih =>
    have hfront : 1 ≤ front.length + first.toNat := by
      cases first with
      | true => exact Nat.le_add_left 1 _
      | false =>
        obtain ⟨blanks, left, rfl, -⟩ := hf
        simp only [List.length_append, List.length_cons]
        omega
    simp only [Bool.toNat_false, List.length_cons, List.length_append] at ih ⊢
    omega

/-- A loop that reads what stands between two brackets, of which `close` is the second: it stops at
the bracket, or takes one item or member and goes on. -/
structure Loops (loop : Nat → Bool → List α → List Char → Reading (List α × List Char))
    (Part : List Char → α → Prop) (close : Char) : Prop where
  ends : ∀ rest, Ended (close :: rest)
  stops : ∀ fuel first soFar blanks rest, Blank blanks →
    loop (fuel + 1) first soFar (blanks ++ close :: rest) = .ok (soFar.reverse, rest)
  goes : ∀ fuel first soFar front text a rest, Before first front → Part text a → Ended rest →
    loop (fuel + 1) first soFar (front ++ (text ++ rest)) = loop fuel false (a :: soFar) rest
  only : ∀ fuel first soFar cs as rest, loop fuel first soFar cs = .ok (as, rest) →
    (∃ blanks, Blank blanks ∧ cs = blanks ++ close :: rest ∧ as = soFar.reverse) ∨
    ∃ left front text a behind, fuel = left + 1 ∧ Before first front ∧ Part text a ∧
      cs = front ++ (text ++ behind) ∧ loop left false (a :: soFar) behind = .ok (as, rest)

variable {loop : Nat → Bool → List α → List Char → Reading (List α × List Char)} {close : Char}

theorem Loops.exists_course (hl : Loops loop Part close) {fuel : Nat} {soFar : List α}
    {cs rest : List Char} (h : loop fuel first soFar cs = .ok (as, rest)) :
    ∃ text others, cs = text ++ close :: rest ∧ Course Part first text others ∧
      as = soFar.reverse ++ others := by
  -- on the fuel: a turn that goes on leaves less of it
  induction fuel using Nat.strongRecOn generalizing first soFar cs with
  | ind fuel ih =>
    rcases hl.only _ _ _ _ _ _ h with
      ⟨blanks, hb, rfl, rfl⟩ | ⟨left, front, text, a, behind, rfl, hf, ha, rfl, hnext⟩
    · exact ⟨blanks, [], rfl, .stop hb, by simp⟩
    · obtain ⟨text', others, rfl, hc, rfl⟩ := ih left (Nat.lt_succ_self left) hnext
      exact ⟨front ++ (text ++ text'), a :: others, by simp, .go hf ha hc, by simp⟩

/-- The loop needs one turn for each item or member, and one for the bracket. -/
theorem Loops.of_course (hl : Loops loop Part close) (h : Course Part first text as)
    (rest : List Char) : ∀ (fuel : Nat) (soFar : List α), as.length < fuel →
      loop fuel first soFar (text ++ close :: rest) = .ok (soFar.reverse ++ as, rest) := by
  induction h with
  | stop hb =>
    intro fuel soFar hf
    obtain ⟨fuel, rfl⟩ := Nat.exists_eq_succ_of_ne_zero (Nat.ne_of_gt hf)
    rw [hl.stops _ _ _ _ _ hb, List.append_nil]
  | go hf ha hs ih =>
    intro fuel soFar hfuel
    obtain ⟨fuel, rfl⟩ := Nat.exists_eq_succ_of_ne_zero (Nat.ne_of_gt (Nat.zero_lt_of_lt hfuel))
    rw [List.append_assoc, List.append_assoc,
      hl.goes _ _ _ _ _ _ _ hf ha (hs.ended_append (hl.ends rest)),
      ih fuel _ (Nat.lt_of_succ_lt_succ hfuel)]
    simp

theorem Loops.eq_ok_iff (hl : Loops loop Part close) {cs rest : List Char} :
    loop (cs.length + 1) true [] cs = .ok (as, rest) ↔
      ∃ text, cs = text ++ close :: rest ∧ Inside Part text as := by
  constructor
  · intro h
    obtain ⟨text, others, rfl, hc, rfl⟩ := hl.exists_course h
    exact ⟨text, rfl, course_true_iff.1 hc⟩
  · rintro ⟨text, rfl, h⟩
    have hcourse := course_true_iff.2 h
    have hlength := hcourse.length_le
    refine hl.of_course hcourse rest _ _ ?_
    simp only [Bool.toNat_true, List.length_append, List.length_cons] at hlength ⊢
    omega

end Loops

/-! ## Lists and objects -/

/-- The reader of values up to a depth takes what the grammar says, and nothing else. -/
structure Agrees (depth : Nat) : Prop where
  reads : ∀ {text v}, Spells depth text v → Reads depth text v
  spells : ∀ {cs v rest}, value depth cs = .ok (v, rest) →
    ∃ left text, Blank left ∧ cs = left ++ (text ++ rest) ∧ Spells depth text v

section Nesting

variable {depth : Nat}

theorem ended_cons {c : Char} (h : c.isDigit = false ∧ c ≠ '.' ∧ c ≠ 'e' ∧ c ≠ 'E')
    (rest : List Char) : Ended (c :: rest) := by
  rintro d ⟨⟩
  exact h

theorem items_blank_append {blanks : List Char} (hb : Blank blanks) (fuel : Nat) (first : Bool)
    (soFar : List Json) (cs : List Char) :
    items (value depth) (fuel + 1) first soFar (blanks ++ cs) =
      items (value depth) (fuel + 1) first soFar cs := by
  rw [items.eq_def, items.eq_def]
  simp only [skipSpaces_append hb]

theorem members_blank_append {blanks : List Char} (hb : Blank blanks) (fuel : Nat) (first : Bool)
    (soFar : List (String × Json)) (cs : List Char) :
    members (value depth) (fuel + 1) first soFar (blanks ++ cs) =
      members (value depth) (fuel + 1) first soFar cs := by
  rw [members.eq_def, members.eq_def]
  simp only [skipSpaces_append hb]

/-- One turn of the loop over items: it stops at the bracket, or reads one item and goes on. -/
theorem items_turn {fuel : Nat} {first : Bool} {soFar vs : List Json} {cs rest : List Char}
    (hok : items (value depth) fuel first soFar cs = .ok (vs, rest)) :
    (∃ blanks, Blank blanks ∧ cs = blanks ++ ']' :: rest ∧ vs = soFar.reverse) ∨
    ∃ left front start v behind, fuel = left + 1 ∧ Before first front ∧ cs = front ++ start ∧
      value depth start = .ok (v, behind) ∧
      items (value depth) left false (v :: soFar) behind = .ok (vs, rest) := by
  obtain ⟨blanks, hb, hcs⟩ := exists_blank_append_skipSpaces cs
  cases fuel with
  | zero => cases hok
  | succ fuel =>
    rw [items] at hok
    split at hok
    · cases hok
    · rename_i cs' hs
      cases hok
      exact .inl ⟨blanks, hb, by rw [← hs, ← hcs], rfl⟩
    · rename_i c cs' _ hs
      rw [hs] at hcs
      right
      cases first with
      | true =>
        obtain ⟨_, hstart, hitem⟩ := bind_eq_ok_iff.1 hok
        cases hstart
        obtain ⟨⟨v, behind⟩, hv, hnext⟩ := bind_eq_ok_iff.1 hitem
        exact ⟨fuel, blanks, _, v, behind, rfl, hb, hcs, hv, hnext⟩
      | false =>
        simp only [Bool.false_eq_true, if_false] at hok
        split at hok
        · rename_i hcomma
          subst hcomma
          obtain ⟨blanks', hb', hcs'⟩ := exists_blank_append_skipSpaces cs'
          split at hok
          · cases hok
          · cases hok
          · obtain ⟨_, hstart, hitem⟩ := bind_eq_ok_iff.1 hok
            cases hstart
            obtain ⟨⟨v, behind⟩, hv, hnext⟩ := bind_eq_ok_iff.1 hitem
            refine ⟨fuel, blanks ++ ',' :: blanks', _, v, behind, rfl,
              ⟨blanks, blanks', rfl, hb, hb'⟩, ?_, hv, hnext⟩
            rw [List.append_assoc, List.cons_append, ← hcs', hcs]
        · cases hok

/-- One turn of the loop over members: it stops at the brace, or reads one member and goes on. -/
theorem members_turn {fuel : Nat} {first : Bool} {soFar ms : List (String × Json)}
    {cs rest : List Char} (hok : members (value depth) fuel first soFar cs = .ok (ms, rest)) :
    (∃ blanks, Blank blanks ∧ cs = blanks ++ '}' :: rest ∧ ms = soFar.reverse) ∨
    ∃ left front start m behind, fuel = left + 1 ∧ Before first front ∧
      cs = front ++ '"' :: start ∧ member (value depth) start = .ok (m, behind) ∧
      members (value depth) left false (m :: soFar) behind = .ok (ms, rest) := by
  obtain ⟨blanks, hb, hcs⟩ := exists_blank_append_skipSpaces cs
  cases fuel with
  | zero => cases hok
  | succ fuel =>
    rw [members] at hok
    split at hok
    · cases hok
    · rename_i cs' hs
      cases hok
      exact .inl ⟨blanks, hb, by rw [← hs, ← hcs], rfl⟩
    · rename_i c cs' _ hs
      rw [hs] at hcs
      right
      cases first with
      | true =>
        simp only [if_true] at hok
        split at hok
        · rename_i hquote
          subst hquote
          obtain ⟨_, hstart, hitem⟩ := bind_eq_ok_iff.1 hok
          cases hstart
          obtain ⟨⟨m, behind⟩, hm, hnext⟩ := bind_eq_ok_iff.1 hitem
          exact ⟨fuel, blanks, _, m, behind, rfl, hb, hcs, hm, hnext⟩
        · cases hok
      | false =>
        simp only [Bool.false_eq_true, if_false] at hok
        split at hok
        · rename_i hcomma
          subst hcomma
          obtain ⟨blanks', hb', hcs'⟩ := exists_blank_append_skipSpaces cs'
          split at hok
          · cases hok
          · rename_i hs'
            obtain ⟨_, hstart, hitem⟩ := bind_eq_ok_iff.1 hok
            cases hstart
            obtain ⟨⟨m, behind⟩, hm, hnext⟩ := bind_eq_ok_iff.1 hitem
            refine ⟨fuel, blanks ++ ',' :: blanks', _, m, behind, rfl,
              ⟨blanks, blanks', rfl, hb, hb'⟩, ?_, hm, hnext⟩
            rw [List.append_assoc, List.cons_append, ← hs', ← hcs', hcs]
          · cases hok
          · cases hok
        · cases hok

theorem loops_items (h : Agrees depth) : Loops (items (value depth)) (Spells depth) ']' where
  ends := ended_cons (by decide)
  stops fuel first soFar blanks rest hb := items_close fuel soFar first hb
  goes fuel first soFar front text v rest hf hv hr := by
    cases first with
    | true =>
      rw [← List.append_assoc]
      exact items_first fuel soFar ((h.reads hv).blank_append hf rest hr)
    | false =>
      obtain ⟨blanks, left, rfl, hb, hl⟩ := hf
      rw [List.append_assoc, items_blank_append hb, List.cons_append, ← List.append_assoc]
      exact items_next fuel soFar ((h.reads hv).blank_append hl rest hr)
  only fuel first soFar cs vs rest hok := by
    refine (items_turn hok).imp_right ?_
    rintro ⟨fuel, front, start, v, behind, hfuel, hf, rfl, hv, hnext⟩
    obtain ⟨left, text, hl, rfl, hspells⟩ := h.spells hv
    exact ⟨fuel, front ++ left, text, v, behind, hfuel, hf.append hl, hspells, by simp, hnext⟩

theorem exists_member_of_eq_ok (h : Agrees depth) {cs rest : List Char} {m : String × Json}
    (hm : member (value depth) cs = .ok (m, rest)) :
    ∃ text, '"' :: cs = text ++ rest ∧ Member (Spells depth) text m := by
  rw [member] at hm
  obtain ⟨⟨name, behind⟩, hname, hnext⟩ := bind_eq_ok_iff.1 hm
  obtain ⟨text, chars, rfl, hchars, rfl⟩ := string_eq_ok_iff.1 hname
  obtain ⟨between, hb, hbehind⟩ := exists_blank_append_skipSpaces behind
  simp only at hnext
  split at hnext
  · cases hnext
  · rename_i cs' hs
    rw [hs] at hbehind
    obtain ⟨⟨v, rest'⟩, hv, hlast⟩ := bind_eq_ok_iff.1 hnext
    cases hlast
    obtain ⟨left, text', hl, rfl, hspells⟩ := h.spells hv
    rw [hbehind]
    exact ⟨_, by simp, .named hchars hb hl hspells⟩
  · cases hnext

theorem member_append (h : Agrees depth) {text rest : List Char} {m : String × Json}
    (hm : Member (Spells depth) text m) (hr : Ended rest) :
    ∃ cs, text ++ rest = '"' :: cs ∧ member (value depth) cs = .ok (m, rest) := by
  cases hm with
  | @named name chars between left text v hn hb hl hv =>
    refine ⟨name ++ '"' :: (between ++ ':' :: (left ++ (text ++ rest))), by simp, ?_⟩
    have hname : string (name ++ '"' :: (between ++ ':' :: (left ++ (text ++ rest)))) =
        .ok (String.ofList chars, between ++ ':' :: (left ++ (text ++ rest))) :=
      string_eq_ok_iff.2 ⟨name, chars, rfl, hn, rfl⟩
    have hvalue := (h.reads hv).blank_append hl rest hr
    rw [List.append_assoc] at hvalue
    simp only [member, hname, bind, Except.bind, skipSpaces_append hb,
      skipSpaces_cons (show isSpace ':' = false by decide), hvalue]

theorem loops_members (h : Agrees depth) :
    Loops (members (value depth)) (Member (Spells depth)) '}' where
  ends := ended_cons (by decide)
  stops fuel first soFar blanks rest hb := members_close fuel soFar first hb
  goes fuel first soFar front text m rest hf hm hr := by
    obtain ⟨cs, hcs, hmember⟩ := member_append h hm hr
    have hquote : ∀ left, Blank left → skipSpaces (left ++ (text ++ rest)) = '"' :: cs := by
      intro left hl
      rw [skipSpaces_append hl, hcs, skipSpaces_cons (by decide)]
    cases first with
    | true => exact members_first fuel soFar (hquote _ hf) hmember
    | false =>
      obtain ⟨blanks, left, rfl, hb, hl⟩ := hf
      rw [List.append_assoc, members_blank_append hb, List.cons_append]
      exact members_next fuel soFar (hquote _ hl) hmember
  only fuel first soFar cs ms rest hok := by
    refine (members_turn hok).imp_right ?_
    rintro ⟨fuel, front, start, m, behind, hfuel, hf, rfl, hm, hnext⟩
    obtain ⟨text, he, hmember⟩ := exists_member_of_eq_ok h hm
    exact ⟨fuel, front, text, m, behind, hfuel, hf, hmember, by rw [he], hnext⟩

/-! ## Values -/

theorem exists_spells_of_scalar (depth : Nat) {cs rest : List Char} {v : Json}
    (h : scalar (skipSpaces cs) = .ok (v, rest)) :
    ∃ left text, Blank left ∧ cs = left ++ (text ++ rest) ∧ Spells depth text v := by
  obtain ⟨blanks, hb, hcs⟩ := exists_blank_append_skipSpaces cs
  obtain ⟨text, he, hscalar⟩ := exists_scalar_of_eq_ok h
  rw [he] at hcs
  refine ⟨blanks, text, hb, hcs, ?_⟩
  cases depth with
  | zero => exact hscalar
  | succ => exact .inl hscalar

theorem value_bracket_eq_ok_iff (h : Agrees depth) {cs rest : List Char} {v : Json} :
    value (depth + 1) ('[' :: cs) = .ok (v, rest) ↔
      ∃ text vs, cs = text ++ ']' :: rest ∧ Inside (Spells depth) text vs ∧ v = .arr vs := by
  rw [value_bracket, bind_eq_ok_iff]
  constructor
  · rintro ⟨⟨vs, behind⟩, hitems, hv⟩
    cases hv
    obtain ⟨text, rfl, hinside⟩ := (loops_items h).eq_ok_iff.1 hitems
    exact ⟨text, vs, rfl, hinside, rfl⟩
  · rintro ⟨text, vs, rfl, hinside, rfl⟩
    exact ⟨_, (loops_items h).eq_ok_iff.2 ⟨text, rfl, hinside⟩, rfl⟩

theorem value_brace_eq_ok_iff (h : Agrees depth) {cs rest : List Char} {v : Json} :
    value (depth + 1) ('{' :: cs) = .ok (v, rest) ↔
      ∃ text ms, cs = text ++ '}' :: rest ∧ Inside (Member (Spells depth)) text ms ∧
        v = ofMembers ms := by
  rw [value_brace, bind_eq_ok_iff]
  constructor
  · rintro ⟨⟨ms, behind⟩, hmembers, hv⟩
    cases hv
    obtain ⟨text, rfl, hinside⟩ := (loops_members h).eq_ok_iff.1 hmembers
    exact ⟨text, ms, rfl, hinside, rfl⟩
  · rintro ⟨text, ms, rfl, hinside, rfl⟩
    exact ⟨_, (loops_members h).eq_ok_iff.2 ⟨text, rfl, hinside⟩, rfl⟩

/-- The step of the recursion: what holds of the values inside holds of lists and objects. -/
theorem Agrees.succ (h : Agrees depth) : Agrees (depth + 1) where
  reads {text v} hspells := by
    rcases hspells with hscalar | hlist | hobject
    · exact .of_scalar fun rest hr => scalar_append hscalar hr
    · intro rest hr
      rw [List.cons_append, List.append_assoc]
      exact (value_bracket_eq_ok_iff h).2 ⟨_, _, rfl, hlist, rfl⟩
    · intro rest hr
      rw [List.cons_append, List.append_assoc]
      exact (value_brace_eq_ok_iff h).2 ⟨_, _, rfl, hobject, rfl⟩
  spells {cs v rest} hv := by
    obtain ⟨blanks, hb, hcs⟩ := exists_blank_append_skipSpaces cs
    rw [value] at hv
    split at hv
    · rename_i hs
      obtain ⟨text, vs, rfl, hinside, rfl⟩ := (value_bracket_eq_ok_iff h).1 hv
      rw [hs] at hcs
      exact ⟨blanks, '[' :: (text ++ [']']), hb, by simp [hcs], .inr (.list hinside)⟩
    · rename_i hs
      obtain ⟨text, ms, rfl, hinside, rfl⟩ := (value_brace_eq_ok_iff h).1 hv
      rw [hs] at hcs
      exact ⟨blanks, '{' :: (text ++ ['}']), hb, by simp [hcs], .inr (.object hinside)⟩
    · exact exists_spells_of_scalar (depth + 1) hv

end Nesting

/-- **The reader agrees with the grammar at every depth.** -/
theorem agrees (depth : Nat) : Agrees depth := by
  induction depth with
  | zero =>
    refine ⟨fun h => .of_scalar fun rest hr => scalar_append h hr, fun {cs v rest} hv => ?_⟩
    rw [value] at hv
    split at hv
    · cases hv
    · cases hv
    · exact exists_spells_of_scalar 0 hv
  | succ depth ih => exact ih.succ

/-! ## Whole texts -/

theorem readChars_eq_ok_iff {cs : List Char} {v : Json} :
    readChars cs = .ok v ↔ Spaced (Spells maxDepth) cs v := by
  rw [readChars, bind_eq_ok_iff]
  constructor
  · rintro ⟨⟨v, rest⟩, hv, hrest⟩
    obtain ⟨left, text, hl, rfl, hspells⟩ := (agrees maxDepth).spells hv
    obtain ⟨blanks, hb, hblanks⟩ := exists_blank_append_skipSpaces rest
    simp only at hrest
    split at hrest
    · rename_i hs
      cases hrest
      rw [hs, List.append_nil] at hblanks
      subst hblanks
      exact .around hl hb hspells
    · cases hrest
  · rintro ⟨hl, hr, hspells⟩
    have hvalue := ((agrees maxDepth).reads hspells).blank_append hl _ (ended_blank hr)
    rw [List.append_assoc] at hvalue
    refine ⟨_, hvalue, ?_⟩
    have hend := skipSpaces_append hr []
    rw [List.append_nil] at hend
    simp only [hend]
    rfl

/-- **A text is read as a value exactly when it stands for it**, however it is delivered. -/
theorem read_eq_ok_iff {delivery : Delivery} {text : String} {v : Json} :
    read delivery text = .ok v ↔ IsText text v := by
  rw [IsText, ← readChars_eq_ok_iff, read]
  cases readChars text.toList <;> simp

end Pacts.Json
