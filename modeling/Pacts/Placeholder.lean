import Pacts.Lookup
import Pacts.Text.Blank
import Pacts.Text.Fields

/-!
# Placeholders in settings

A setting may hold placeholders of the form `${key}` or `${key:default}`.  The body of a placeholder
ends at the first closing brace behind its opening, and its key ends at the first colon of the
body.  `pieces` cuts a text into placeholders and single characters, from the left; `written` puts
the pieces back together, and `written_pieces` says that nothing is lost in between.

`expand` gives every placeholder its value: what the lookup binds to the key, else the default, else
the text of the placeholder itself.  A value that was put in is not looked at again.  `expandList`
then cuts the text at its commas and drops the blanks around the fields, and the fields that are
empty.
-/

set_option autoImplicit false

namespace Pacts

namespace Placeholder

/-- A part of a setting: a single character, or the placeholder with a body. -/
inductive Piece where
  | char (c : Char)
  | hole (body : List Char)
  deriving DecidableEq, Repr

/-- What stands in front of the first closing brace, if there is one. -/
def untilBrace : List Char → Option (List Char)
  | [] => none
  | c :: cs => if c = '}' then some [] else (untilBrace cs).map (c :: ·)

/-- The body of the placeholder that a text starts with. -/
def bodyAt : List Char → Option (List Char)
  | '$' :: '{' :: cs => untilBrace cs
  | _ => none

/-- The pieces of a text, once `skip` more characters have been passed over. -/
def piecesFrom : (skip : Nat) → List Char → List Piece
  | _, [] => []
  | skip + 1, _ :: cs => piecesFrom skip cs
  | 0, c :: cs =>
    match bodyAt (c :: cs) with
    | some body => .hole body :: piecesFrom (body.length + 2) cs
    | none => .char c :: piecesFrom 0 cs

/-- The pieces of a text. -/
def pieces (cs : List Char) : List Piece := piecesFrom 0 cs

/-- The text of a placeholder. -/
def writtenHole (body : List Char) : List Char := '$' :: '{' :: body ++ ['}']

/-- The text of a piece. -/
def Piece.written : Piece → List Char
  | .char c => [c]
  | .hole body => writtenHole body

/-- The key of a placeholder: its body up to the first colon, without the blanks around it. -/
def key (body : List Char) : String := String.ofList (Text.trim (body.takeWhile (· ≠ ':')))

/-- The default of a placeholder: what stands behind the first colon of its body, if there is
one. -/
def default? (body : List Char) : Option (List Char) :=
  match body.dropWhile (· ≠ ':') with
  | [] => none
  | _ :: rest => some rest

/-- The text that takes the place of a placeholder. -/
def fill (lookup : Lookup) (body : List Char) : List Char :=
  match lookup (key body), default? body with
  | some value, _ => value.toList
  | none, some value => value
  | none, none => writtenHole body

/-- The text that takes the place of a piece. -/
def Piece.filled (lookup : Lookup) : Piece → List Char
  | .char c => [c]
  | .hole body => fill lookup body

/-- Whether a piece is a placeholder. -/
def Piece.isHole : Piece → Bool
  | .char _ => false
  | .hole _ => true

/-! ## The pieces of a text make up the text -/

theorem untilBrace_eq_some {cs body : List Char} (h : untilBrace cs = some body) :
    '}' ∉ body ∧ ∃ rest, cs = body ++ '}' :: rest := by
  induction cs generalizing body with
  | nil => simp [untilBrace] at h
  | cons c cs ih =>
    rw [untilBrace] at h
    split at h
    · rename_i hc
      obtain rfl : [] = body := by simpa using h
      exact ⟨by simp, cs, by simp [hc]⟩
    · rename_i hc
      cases hb : untilBrace cs with
      | none => simp [hb] at h
      | some b =>
        obtain rfl : c :: b = body := by simpa [hb] using h
        obtain ⟨hn, rest, rfl⟩ := ih hb
        exact ⟨by simp [hn, Ne.symm hc], rest, by simp⟩

theorem bodyAt_eq_some {cs body : List Char} (h : bodyAt cs = some body) :
    '}' ∉ body ∧ ∃ rest, cs = writtenHole body ++ rest := by
  unfold bodyAt at h
  split at h
  · obtain ⟨hn, rest, rfl⟩ := untilBrace_eq_some h
    exact ⟨hn, rest, by simp [writtenHole]⟩
  · simp at h

theorem piecesFrom_drop (skip : Nat) (cs : List Char) :
    piecesFrom skip cs = piecesFrom 0 (cs.drop skip) := by
  induction skip generalizing cs with
  | zero => simp
  | succ skip ih =>
    cases cs with
    | nil => simp [piecesFrom]
    | cons c cs => simp [piecesFrom, ih]

theorem pieces_hole (body rest : List Char) (h : '}' ∉ body) :
    pieces (writtenHole body ++ rest) = .hole body :: pieces rest := by
  have hb : ∀ b : List Char, '}' ∉ b → untilBrace (b ++ '}' :: rest) = some b := by
    intro b hb
    induction b with
    | nil => simp [untilBrace]
    | cons c b ih =>
      have hc : c ≠ '}' := fun e => hb (by simp [e])
      have hn : '}' ∉ b := fun m => hb (by simp [m])
      simp [untilBrace, hc, ih hn]
  have hat : bodyAt ('$' :: '{' :: (body ++ '}' :: rest)) = some body := by
    rw [bodyAt]; exact hb body h
  have hdrop : (body ++ '}' :: rest).drop (body.length + 1) = rest := by
    simp
  simp only [pieces, writtenHole, List.cons_append, List.append_assoc, List.nil_append, piecesFrom,
    hat]
  rw [piecesFrom_drop, hdrop]

theorem pieces_char {c : Char} {cs : List Char} (h : bodyAt (c :: cs) = none) :
    pieces (c :: cs) = .char c :: pieces cs := by
  simp [pieces, piecesFrom, h]

theorem written_pieces (cs : List Char) : (pieces cs).flatMap Piece.written = cs := by
  match cs with
  | [] => simp [pieces, piecesFrom]
  | c :: cs =>
    cases h : bodyAt (c :: cs) with
    | none => simp [pieces_char h, Piece.written, written_pieces cs]
    | some body =>
      obtain ⟨hn, rest, he⟩ := bodyAt_eq_some h
      have hlen : rest.length < (c :: cs).length := by
        rw [he]
        simp only [writtenHole, List.length_append, List.length_cons]
        omega
      rw [he, pieces_hole body rest hn]
      simp [Piece.written, written_pieces rest]
  termination_by cs.length
  decreasing_by
    · exact Nat.lt_succ_self _
    · exact hlen

end Placeholder

open Placeholder

/-! ## Expansion -/

/-- A text with every placeholder replaced by its value. -/
def expandChars (lookup : Lookup) (cs : List Char) : List Char :=
  (pieces cs).flatMap (Piece.filled lookup)

/-- A setting with every placeholder replaced by its value. -/
def expand (lookup : Lookup) (setting : String) : String :=
  String.ofList (expandChars lookup setting.toList)

/-- Whether a setting holds a placeholder. -/
def hasPlaceholder (setting : String) : Bool := (pieces setting.toList).any Piece.isHole

/-- The fields of a text between its commas that are not blank, without the blanks around them. -/
def listFields (cs : List Char) : List String :=
  (((Text.fields ',' cs).map Text.trim).filter (!·.isEmpty)).map String.ofList

/-- The list a setting stands for: its placeholders are replaced first, then it is cut at its
commas. -/
def expandList (lookup : Lookup) (setting : String) : List String :=
  listFields (expandChars lookup setting.toList)

end Pacts
