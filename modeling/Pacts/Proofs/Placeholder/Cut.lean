import Mathlib.Data.List.TakeWhile
import Mathlib.Logic.ExistsUnique
import Pacts.Proofs.Placeholder.Keys

/-!
# Where a setting is cut

`Placeholder.pieces` finds the placeholders of a setting with a scan.  This file states the rule
that the scan follows, without the scan: a setting is a row of placeholders with texts between
them, every placeholder starts at the leftmost `${` that has a `}` somewhere behind it, its body
ends at the first such `}`, and the text behind the last placeholder has no `${` with a `}` behind
it.

* `CutsInto` is this rule, and `cut` reads the cut off the pieces.  `cutsInto_cut` and
  `CutsInto.eq_cut` say that it is the one and only cut that follows the rule.
* `StandsFor` is the rule for the text that takes the place of a placeholder, and
  `standsFor_iff` says that `fill` is this text.
* `expand_of_cut` is the whole rule of placeholders: what stands between them is kept, and each of
  them is replaced by what it stands for.

The body of a placeholder may hold `${`, and a text between two placeholders may hold single `$`
and `{`; but it never holds an opening, since the brace that closes the next placeholder would
close it.
-/

set_option autoImplicit false

namespace Pacts

namespace Placeholder

/-! ## Openings -/

/-- Behind `front` stands a `${` that has a `}` somewhere behind it. -/
def OpensBehind (front cs : List Char) : Prop :=
  ∃ rest, cs = front ++ '$' :: '{' :: rest ∧ '}' ∈ rest

theorem opensBehind_cons_iff {c : Char} {front cs : List Char} :
    OpensBehind (c :: front) (c :: cs) ↔ OpensBehind front cs := by
  simp [OpensBehind]

theorem OpensBehind.exists_tail {d c : Char} {front cs : List Char}
    (h : OpensBehind (d :: front) (c :: cs)) : d = c ∧ OpensBehind front cs := by
  obtain ⟨rest, he, hm⟩ := h
  obtain ⟨hc, he⟩ := List.cons.inj he
  exact ⟨hc.symm, rest, he, hm⟩

theorem opensBehind_writtenHole (body rest : List Char) :
    OpensBehind [] (writtenHole body ++ rest) :=
  ⟨body ++ '}' :: rest, by simp [writtenHole], by simp⟩

theorem untilBrace_eq_none_iff {cs : List Char} : untilBrace cs = none ↔ '}' ∉ cs := by
  induction cs with
  | nil => simp [untilBrace]
  | cons c cs ih =>
    rw [untilBrace]
    split
    · rename_i hc
      simp [hc]
    · rename_i hc
      simp [ih, Ne.symm hc]

/-- A text starts with a placeholder when it starts with an opening. -/
theorem bodyAt_eq_none_iff {cs : List Char} : bodyAt cs = none ↔ ¬ OpensBehind [] cs := by
  constructor
  · rintro h ⟨rest, rfl, hm⟩
    exact untilBrace_eq_none_iff.1 h hm
  · intro h
    cases hb : bodyAt cs with
    | none => rfl
    | some body =>
      obtain ⟨-, rest, rfl⟩ := bodyAt_eq_some hb
      exact absurd (opensBehind_writtenHole body rest) h

/-- The characters in front of the first opening are pieces of their own. -/
theorem pieces_append_of_le {front cs : List Char}
    (h : ∀ f, OpensBehind f (front ++ cs) → front.length ≤ f.length) :
    pieces (front ++ cs) = front.map Piece.char ++ pieces cs := by
  induction front with
  | nil => rfl
  | cons c front ih =>
    have hb : bodyAt (c :: (front ++ cs)) = none :=
      bodyAt_eq_none_iff.2 fun ho => Nat.not_succ_le_zero _ (h [] ho)
    have hf : ∀ f, OpensBehind f (front ++ cs) → front.length ≤ f.length := fun f hf =>
      Nat.le_of_succ_le_succ (h (c :: f) (opensBehind_cons_iff.2 hf))
    rw [List.cons_append, pieces_char hb, ih hf, List.map_cons, List.cons_append]

theorem pieces_of_not_opensBehind {cs : List Char} (h : ∀ f, ¬ OpensBehind f cs) :
    pieces cs = cs.map Piece.char := by
  have hp : pieces (cs ++ []) = cs.map Piece.char ++ pieces [] :=
    pieces_append_of_le fun f hf => absurd (List.append_nil cs ▸ hf) (h f)
  simpa [pieces, piecesFrom] using hp

/-! ## Cuts -/

/-- A placeholder with the text in front of it. -/
structure Hole where
  front : List Char
  body : List Char
  deriving DecidableEq, Repr

/-- A text in its placeholders and the text behind the last of them. -/
structure Cut where
  holes : List Hole
  last : List Char
  deriving DecidableEq, Repr

/-- **The rule by which a text is cut.**  The last text has no opening; a placeholder starts at the
first opening and ends at the first closing brace. -/
inductive CutsInto : List Char → Cut → Prop
  | last {cs : List Char} (none : ∀ f, ¬ OpensBehind f cs) : CutsInto cs ⟨[], cs⟩
  | hole {front body rest : List Char} {c : Cut}
      (leftmost : ∀ f, OpensBehind f (front ++ (writtenHole body ++ rest)) →
        front.length ≤ f.length)
      (closed : '}' ∉ body) (behind : CutsInto rest c) :
      CutsInto (front ++ (writtenHole body ++ rest)) ⟨⟨front, body⟩ :: c.holes, c.last⟩

namespace Cut

/-- The pieces of a placeholder and of the text in front of it. -/
def holePieces (h : Hole) : List Piece := h.front.map Piece.char ++ [.hole h.body]

/-- The pieces of a cut. -/
def pieces (c : Cut) : List Piece := c.holes.flatMap holePieces ++ c.last.map Piece.char

/-- The text of a cut with something in the place of every body. -/
def filledBy (value : List Char → List Char) (c : Cut) : List Char :=
  c.holes.flatMap (fun h => h.front ++ value h.body) ++ c.last

/-- The cut with one character more in front. -/
def push (x : Char) : Cut → Cut
  | ⟨[], last⟩ => ⟨[], x :: last⟩
  | ⟨h :: holes, last⟩ => ⟨⟨x :: h.front, h.body⟩ :: holes, last⟩

/-- The cut with one placeholder more in front. -/
def pushHole (body : List Char) (c : Cut) : Cut := ⟨⟨[], body⟩ :: c.holes, c.last⟩

/-- The cut that pieces make up. -/
def ofPieces : List Piece → Cut
  | [] => ⟨[], []⟩
  | .char x :: ps => (ofPieces ps).push x
  | .hole body :: ps => (ofPieces ps).pushHole body

theorem ofPieces_chars_append (front : List Char) (ps : List Piece) :
    ofPieces (front.map Piece.char ++ ps) = front.foldr push (ofPieces ps) := by
  induction front with
  | nil => rfl
  | cons x front ih => rw [List.map_cons, List.cons_append, ofPieces, ih, List.foldr_cons]

theorem foldr_push_pushHole (front body : List Char) (c : Cut) :
    front.foldr push (c.pushHole body) = ⟨⟨front, body⟩ :: c.holes, c.last⟩ := by
  induction front with
  | nil => rfl
  | cons x front ih => rw [List.foldr_cons, ih, push]

theorem foldr_push_last (front last : List Char) :
    front.foldr push ⟨[], last⟩ = ⟨[], front ++ last⟩ := by
  induction front with
  | nil => rfl
  | cons x front ih => rw [List.foldr_cons, ih, push, List.cons_append]

/-- Nothing of a cut is lost in its pieces. -/
theorem ofPieces_pieces (c : Cut) : ofPieces c.pieces = c := by
  obtain ⟨holes, last⟩ := c
  induction holes with
  | nil =>
    have h := ofPieces_chars_append last []
    rw [ofPieces, foldr_push_last, List.append_nil, List.append_nil] at h
    exact h
  | cons h holes ih =>
    have hp : pieces ⟨h :: holes, last⟩ =
        h.front.map Piece.char ++ .hole h.body :: pieces ⟨holes, last⟩ := by
      simp [pieces, holePieces]
    rw [hp, ofPieces_chars_append, ofPieces, foldr_push_pushHole, ih]

theorem flatMap_pieces (c : Cut) {text : Piece → List Char} {value : List Char → List Char}
    (char : ∀ x, text (.char x) = [x]) (hole : ∀ body, text (.hole body) = value body) :
    c.pieces.flatMap text = c.filledBy value := by
  have hchars : ∀ cs : List Char, (cs.map Piece.char).flatMap text = cs := by
    intro cs
    rw [List.flatMap_map]
    simp only [char]
    exact List.flatMap_singleton' cs
  have hhole : ∀ h : Hole, (holePieces h).flatMap text = h.front ++ value h.body := by
    intro h
    rw [holePieces, List.flatMap_append, hchars, List.flatMap_singleton, hole]
  rw [pieces, List.flatMap_append, hchars, List.flatMap_assoc, filledBy]
  simp only [hhole]

theorem filledBy_congr {c : Cut} {value other : List Char → List Char}
    (h : ∀ x ∈ c.holes, value x.body = other x.body) : c.filledBy value = c.filledBy other := by
  have heach : ∀ x ∈ c.holes, x.front ++ value x.body = x.front ++ other x.body :=
    fun x hx => by rw [h x hx]
  rw [filledBy, filledBy, List.flatMap_def, List.flatMap_def, List.map_congr_left heach]

theorem any_isHole_pieces (c : Cut) : c.pieces.any Piece.isHole = true ↔ c.holes ≠ [] := by
  obtain ⟨holes, last⟩ := c
  cases holes with
  | nil => simp [pieces, Piece.isHole]
  | cons h holes => simp [pieces, holePieces, Piece.isHole]

end Cut

/-- The cut of a text. -/
def cut (cs : List Char) : Cut := Cut.ofPieces (pieces cs)

theorem cut_char {x : Char} {cs : List Char} (h : bodyAt (x :: cs) = none) :
    cut (x :: cs) = (cut cs).push x := by
  rw [cut, pieces_char h, Cut.ofPieces, cut]

theorem cut_hole {body : List Char} (rest : List Char) (h : '}' ∉ body) :
    cut (writtenHole body ++ rest) = (cut rest).pushHole body := by
  rw [cut, pieces_hole body rest h, Cut.ofPieces, cut]

namespace CutsInto

/-- A character that starts no placeholder belongs to the text in front of the first one. -/
theorem push {x : Char} {cs : List Char} {c : Cut} (h : CutsInto cs c)
    (hx : bodyAt (x :: cs) = none) : CutsInto (x :: cs) (c.push x) := by
  have hfront : ∀ f, OpensBehind f (x :: cs) → ∃ f', f = x :: f' ∧ OpensBehind f' cs := by
    intro f hf
    cases f with
    | nil => exact absurd hf (bodyAt_eq_none_iff.1 hx)
    | cons d f =>
      obtain ⟨rfl, ho⟩ := hf.exists_tail
      exact ⟨f, rfl, ho⟩
  cases h with
  | last none =>
    refine .last fun f hf => ?_
    obtain ⟨f', -, ho⟩ := hfront f hf
    exact none f' ho
  | @hole front body rest c leftmost closed behind =>
    refine @hole (x :: front) body rest c (fun f hf => ?_) closed behind
    obtain ⟨f', rfl, ho⟩ := hfront f hf
    exact Nat.succ_le_succ (leftmost f' ho)

theorem pieces_eq {cs : List Char} {c : Cut} (h : CutsInto cs c) : pieces cs = c.pieces := by
  induction h with
  | last none => exact pieces_of_not_opensBehind none
  | hole leftmost closed _ ih =>
    rw [pieces_append_of_le leftmost, pieces_hole _ _ closed, ih]
    simp [Cut.pieces, Cut.holePieces]

/-- **There is no other cut.** -/
theorem eq_cut {cs : List Char} {c : Cut} (h : CutsInto cs c) : c = cut cs := by
  rw [cut, h.pieces_eq, Cut.ofPieces_pieces]

end CutsInto

/-- **A text is cut by the rule.** -/
theorem cutsInto_cut (cs : List Char) : CutsInto cs (cut cs) := by
  induction cs using pieces_induction with
  | nil => exact .last fun f ⟨rest, he, _⟩ => by cases f <;> cases he
  | char c cs hb ih =>
    rw [cut_char hb]
    exact ih.push hb
  | hole body rest hbrace ih =>
    rw [cut_hole rest hbrace]
    exact @CutsInto.hole [] body rest _ (fun f _ => Nat.zero_le _) hbrace ih

/-! ## What a placeholder stands for -/

/-- **The rule of what a placeholder stands for.**  The name in front of the first colon is looked
up without the blanks around it.  A name that is not bound leaves what stands behind the colon, or
else the placeholder as it is. -/
inductive StandsFor (lookup : Lookup) : (body value : List Char) → Prop
  | bound {name rest : List Char} {value : String} (plain : ':' ∉ name)
      (rest_eq : rest = [] ∨ ∃ default, rest = ':' :: default)
      (found : lookup (String.ofList (Text.trim name)) = some value) :
      StandsFor lookup (name ++ rest) value.toList
  | default {name default : List Char} (plain : ':' ∉ name)
      (unbound : lookup (String.ofList (Text.trim name)) = none) :
      StandsFor lookup (name ++ ':' :: default) default
  | kept {name : List Char} (plain : ':' ∉ name)
      (unbound : lookup (String.ofList (Text.trim name)) = none) :
      StandsFor lookup name (writtenHole name)

section Bodies

variable {name rest : List Char}

/-- A body is a name, with or without a default. -/
theorem exists_name (body : List Char) :
    ∃ name rest, body = name ++ rest ∧ ':' ∉ name ∧
      (rest = [] ∨ ∃ default, rest = ':' :: default) := by
  refine ⟨body.takeWhile (· ≠ ':'), body.dropWhile (· ≠ ':'), List.takeWhile_append_dropWhile.symm,
    fun hm => ?_, ?_⟩
  · simpa using List.mem_takeWhile_imp hm
  · have hhead := List.head?_dropWhile_not (· ≠ ':') body
    cases hd : body.dropWhile (· ≠ ':') with
    | nil => exact .inl rfl
    | cons c default =>
      rw [hd] at hhead
      have hc : c = ':' := by simpa using hhead
      exact .inr ⟨default, by rw [hc]⟩

theorem ne_colon_of_mem (plain : ':' ∉ name) : ∀ c ∈ name, decide (c ≠ ':') = true :=
  fun _ hc => decide_eq_true fun he => plain (he ▸ hc)

theorem key_append (plain : ':' ∉ name) (h : rest = [] ∨ ∃ default, rest = ':' :: default) :
    key (name ++ rest) = String.ofList (Text.trim name) := by
  have hrest : rest.takeWhile (· ≠ ':') = [] := by
    rcases h with rfl | ⟨default, rfl⟩ <;> rfl
  rw [key, List.takeWhile_append_of_pos (ne_colon_of_mem plain), hrest, List.append_nil]

theorem default?_append (plain : ':' ∉ name) (rest : List Char) :
    default? (name ++ rest) = default? rest := by
  rw [default?, List.dropWhile_append_of_pos (ne_colon_of_mem plain), ← default?]

/-- **A placeholder is replaced by what it stands for.** -/
theorem standsFor_iff {lookup : Lookup} {body value : List Char} :
    StandsFor lookup body value ↔ value = fill lookup body := by
  constructor
  · rintro (⟨plain, hrest, found⟩ | ⟨plain, unbound⟩ | ⟨plain, unbound⟩)
    · rw [fill, key_append plain hrest, found]
    · rw [fill, key_append plain (.inr ⟨_, rfl⟩), unbound, default?_append plain]
      rfl
    · rw [fill, ← List.append_nil body, key_append plain (.inl rfl), unbound, default?_append plain]
      rfl
  · rintro rfl
    obtain ⟨name, rest, rfl, plain, hrest⟩ := exists_name body
    rw [fill, key_append plain hrest, default?_append plain]
    cases hl : lookup (String.ofList (Text.trim name)) with
    | some value => exact .bound plain hrest hl
    | none =>
      rcases hrest with rfl | ⟨default, rfl⟩
      · rw [List.append_nil]
        exact .kept plain hl
      · exact .default plain hl

end Bodies

end Placeholder

open Placeholder

/-! ## Expansion -/

theorem hasPlaceholder_iff {setting : String} :
    hasPlaceholder setting = true ↔ (cut setting.toList).holes ≠ [] := by
  rw [hasPlaceholder, (cutsInto_cut setting.toList).pieces_eq, Cut.any_isHole_pieces]

theorem expandChars_eq (lookup : Lookup) (cs : List Char) :
    expandChars lookup cs = (cut cs).filledBy (fill lookup) := by
  rw [expandChars, (cutsInto_cut cs).pieces_eq]
  exact Cut.flatMap_pieces _ (fun _ => rfl) (fun _ => rfl)

/-- Nothing of a setting is lost in its cut. -/
theorem filledBy_writtenHole_cut (cs : List Char) : (cut cs).filledBy writtenHole = cs := by
  have h := written_pieces cs
  rw [(cutsInto_cut cs).pieces_eq, Cut.flatMap_pieces _ (fun _ => rfl) (fun _ => rfl)] at h
  exact h

/-- **The rule of placeholders.**  A setting is cut in exactly one way.  Its expansion is the text
in which everything between the placeholders is as it was and every placeholder is replaced by what
it stands for; it has a placeholder when the cut has one.  When nothing is bound and no placeholder
has a default, the setting is its own expansion. -/
theorem expand_of_cut (setting : String) :
    (∃! c, CutsInto setting.toList c) ∧
    ∀ c, CutsInto setting.toList c →
      c.filledBy writtenHole = setting.toList ∧
      (hasPlaceholder setting = true ↔ c.holes ≠ []) ∧
      (∀ lookup : Lookup,
        (∀ body value, StandsFor lookup body value ↔ value = fill lookup body) ∧
        expand lookup setting = String.ofList (c.filledBy (fill lookup))) ∧
      ((∀ h ∈ c.holes, ':' ∉ h.body) → ∀ lookup : Lookup, (∀ name, lookup name = none) →
        expand lookup setting = setting) := by
  refine ⟨⟨cut setting.toList, cutsInto_cut _, fun c hc => hc.eq_cut⟩, ?_⟩
  intro c hc
  obtain rfl := hc.eq_cut
  refine ⟨filledBy_writtenHole_cut _, hasPlaceholder_iff, ?_, ?_⟩
  · intro lookup
    exact ⟨fun body value => standsFor_iff, by rw [expand, expandChars_eq]⟩
  · intro hplain lookup hunbound
    have hkept : ∀ h ∈ (cut setting.toList).holes, fill lookup h.body = writtenHole h.body :=
      fun h hh => (standsFor_iff.1 (.kept (hplain h hh) (hunbound _))).symm
    rw [expand, expandChars_eq, Cut.filledBy_congr hkept, filledBy_writtenHole_cut,
      String.ofList_toList]

/-- Openings inside of a body and behind the last placeholder, a default with a colon and one
without a name.  What is looked up is the text of a placeholder again, and stays as it is. -/
theorem expand_of_cut_of_openings :
    let setting := "$$\x7ba$\x7bx\x7d/$\x7b:1\x7d-$\x7bk:v:w\x7d$\x7bopen"
    let c : Cut := ⟨[⟨"$".toList, "a$\x7bx".toList⟩, ⟨"/".toList, ":1".toList⟩,
      ⟨"-".toList, "k:v:w".toList⟩], "$\x7bopen".toList⟩
    let lookup := (Values.ofList [("a$\x7bx", "$\x7bk\x7d")]).lookup
    CutsInto setting.toList c ∧ hasPlaceholder setting = true ∧
      expand lookup setting = "$$\x7bk\x7d/1-v:w$\x7bopen" := by
  intro setting c lookup
  have hc : CutsInto setting.toList c := by
    have h : c = cut setting.toList := by decide +kernel
    exact h ▸ cutsInto_cut setting.toList
  obtain ⟨-, hhole, hvalue, -⟩ := (expand_of_cut setting).2 c hc
  refine ⟨hc, hhole.2 (by decide), ?_⟩
  rw [(hvalue lookup).2]
  decide +kernel

end Pacts
