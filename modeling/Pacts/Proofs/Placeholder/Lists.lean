import Mathlib.Data.String.Basic
import Pacts.Proofs.Placeholder.Cut
import Pacts.Proofs.Text.Fields

/-!
# Settings that stand for lists

A setting that stands for a list is expanded first and cut at its commas then, so a value or a
default may bring in any number of elements.  This file says in which sense such settings are lists
all the same.

* `IsElement` is what can be an element of such a list, and `isElement_of_mem_listFields` says that
  nothing else comes out.
* `pieces_append_comma`: a comma between two settings stays a comma, as long as the first of them
  leaves no opening behind its last placeholder.  Such an opening would reach for a closing brace in
  the second setting, and the comma would be a part of a body.
* `listFields_intercalate`: elements with commas between them are cut into these elements again.

`expandList_splits` puts these together.
-/

set_option autoImplicit false

namespace Pacts

open Text

/-! ## Elements -/

/-- What can be an element of a list: a text that is not empty, with no blank at its ends and no
comma in it. -/
structure IsElement (x : String) : Prop where
  ne_empty : x ≠ ""
  trimmed : IsTrimmed x.toList
  plain : ',' ∉ x.toList

theorem isElement_of_mem_listFields {cs : List Char} {x : String} (h : x ∈ listFields cs) :
    IsElement x := by
  obtain ⟨w, hw, rfl⟩ := List.mem_map.1 h
  obtain ⟨hmem, hne⟩ := List.mem_filter.1 hw
  obtain ⟨field, hfield, rfl⟩ := List.mem_map.1 hmem
  constructor
  · intro he
    rw [String.ofList_eq_empty_iff.1 he] at hne
    cases hne
  · rw [String.toList_ofList]
    exact isTrimmed_trim field
  · rw [String.toList_ofList]
    intro hc
    exact sep_not_mem_of_mem_fields hfield (trim_subset field hc)

/-- A comma cuts a text in two. -/
theorem listFields_append_comma (a b : List Char) :
    listFields (a ++ ',' :: b) = listFields a ++ listFields b := by
  rw [listFields, fields_append_sep, List.map_append, List.filter_append, List.map_append,
    ← listFields, ← listFields]

/-- Elements with commas between them are cut into these elements. -/
theorem listFields_intercalate {xs : List String} (h : ∀ x ∈ xs, IsElement x) :
    listFields ([','].intercalate (xs.map String.toList)) = xs := by
  have hkeep : ∀ ws : List (List Char), (∀ w ∈ ws, IsElement (String.ofList w)) →
      ((ws.map trim).filter (!·.isEmpty)) = ws := by
    intro ws hws
    have htrim : ws.map trim = ws := by
      refine (List.map_congr_left fun w hw => ?_).trans (List.map_id ws)
      have htrimmed := (hws w hw).trimmed
      rw [String.toList_ofList] at htrimmed
      exact htrimmed.trim_eq
    rw [htrim, List.filter_eq_self]
    intro w hw
    have hne : w ≠ [] := fun he => (hws w hw).ne_empty (he ▸ rfl)
    simpa using hne
  by_cases hxs : xs = []
  · subst hxs
    rfl
  · have hfields : fields ',' ([','].intercalate (xs.map String.toList)) =
        xs.map String.toList := by
      refine fields_intercalate (by simpa using hxs) fun w hw => ?_
      obtain ⟨x, hx, rfl⟩ := List.mem_map.1 hw
      exact (h x hx).plain
    have helement : ∀ w ∈ xs.map String.toList, IsElement (String.ofList w) := by
      intro w hw
      obtain ⟨x, hx, rfl⟩ := List.mem_map.1 hw
      rw [String.ofList_toList]
      exact h x hx
    rw [listFields, hfields, hkeep _ helement, List.map_map]
    exact (List.map_congr_left fun x _ => String.ofList_toList).trans (List.map_id xs)

/-! ## Commas between settings -/

namespace Placeholder

theorem not_opensBehind_of_not_mem {cs : List Char} (h : '}' ∉ cs) (f : List Char) :
    ¬ OpensBehind f cs := by
  rintro ⟨rest, rfl, hm⟩
  exact h (by simp [hm])

theorem Cut.last_suffix_push (x : Char) (c : Cut) : c.last <:+ (c.push x).last := by
  obtain ⟨_ | ⟨h, holes⟩, last⟩ := c
  · exact List.suffix_cons x last
  · exact List.suffix_refl last

/-- What starts a placeholder. -/
def opening : List Char := ['$', '{']

/-- A character that starts no placeholder does not start one with a comma behind the text
either, unless the text leaves an opening. -/
theorem bodyAt_append_comma {x : Char} {cs : List Char} (b : List Char)
    (hx : bodyAt (x :: cs) = none) (h : ¬ opening <:+: (cut (x :: cs)).last) :
    bodyAt (x :: (cs ++ ',' :: b)) = none := by
  rw [bodyAt_eq_none_iff]
  rintro ⟨rest, he, -⟩
  rw [List.nil_append, List.cons.injEq] at he
  obtain ⟨rfl, he⟩ := he
  cases cs with
  | nil => cases he
  | cons y cs =>
    obtain ⟨rfl, -⟩ := List.cons.inj he
    have hbrace : '}' ∉ cs := untilBrace_eq_none_iff.1 hx
    have hcut : CutsInto ('$' :: '{' :: cs) ⟨[], '$' :: '{' :: cs⟩ :=
      .last (not_opensBehind_of_not_mem (by simpa using hbrace))
    rw [← hcut.eq_cut] at h
    exact h ⟨[], cs, rfl⟩

/-- **A comma between two texts is a piece of its own**, unless the first text leaves an opening
behind its last placeholder. -/
theorem pieces_append_comma {a : List Char} (b : List Char) (h : ¬ opening <:+: (cut a).last) :
    pieces (a ++ ',' :: b) = pieces a ++ .char ',' :: pieces b := by
  induction a using pieces_induction with
  | nil => exact pieces_char rfl
  | char x cs hb ih =>
    have hcs : ¬ opening <:+: (cut cs).last := by
      intro hi
      rw [cut_char hb] at h
      exact h (hi.trans (Cut.last_suffix_push x _).isInfix)
    rw [List.cons_append, pieces_char (bodyAt_append_comma b hb h), ih hcs, pieces_char hb,
      List.cons_append]
  | hole body rest hbrace ih =>
    rw [cut_hole rest hbrace] at h
    rw [List.append_assoc, pieces_hole _ _ hbrace, ih h, pieces_hole _ _ hbrace, List.cons_append]

end Placeholder

open Placeholder

/-- Without a placeholder a setting is its own expansion. -/
theorem expandChars_of_no_placeholder {setting : String} (h : hasPlaceholder setting = false)
    (lookup : Lookup) : expandChars lookup setting.toList = setting.toList := by
  have hholes : (cut setting.toList).holes = [] := by
    by_contra hne
    rw [hasPlaceholder_iff.2 hne] at h
    cases h
  have hall : (cut setting.toList).filledBy (fill lookup) =
      (cut setting.toList).filledBy writtenHole := by
    refine Cut.filledBy_congr fun x hx => ?_
    rw [hholes] at hx
    cases hx
  rw [expandChars_eq, hall, filledBy_writtenHole_cut]

theorem expandChars_append_comma (lookup : Lookup) {a : List Char} (b : List Char)
    (h : ¬ opening <:+: (cut a).last) :
    expandChars lookup (a ++ ',' :: b) = expandChars lookup a ++ ',' :: expandChars lookup b := by
  rw [expandChars, pieces_append_comma b h, List.flatMap_append, List.flatMap_cons, Piece.filled,
    List.singleton_append, ← expandChars, ← expandChars]

/-! ## Lists -/

/-- **Settings split like lists.**  Every element of the list that a setting stands for is a text
with no blank at its ends and no comma in it, and it is not empty.  A comma between two settings
joins their lists, unless the first setting leaves an opening behind its last placeholder.  A text
that is made of elements with commas between them and has no placeholder stands for these elements;
so a list that was read can be written with commas and read again, if that makes no placeholder. -/
theorem expandList_splits (lookup : Lookup) :
    (∀ setting, ∀ x ∈ expandList lookup setting, IsElement x) ∧
    (∀ a b : String, ¬ opening <:+: (cut a.toList).last →
      expandList lookup (a ++ "," ++ b) = expandList lookup a ++ expandList lookup b) ∧
    (∀ xs : List String, (∀ x ∈ xs, IsElement x) → hasPlaceholder (",".intercalate xs) = false →
      expandList lookup (",".intercalate xs) = xs) ∧
    ∀ (other : Lookup) (setting : String),
      hasPlaceholder (",".intercalate (expandList other setting)) = false →
        expandList lookup (",".intercalate (expandList other setting)) =
          expandList other setting := by
  have hjoined : ∀ xs : List String, (∀ x ∈ xs, IsElement x) →
      hasPlaceholder (",".intercalate xs) = false →
        expandList lookup (",".intercalate xs) = xs := by
    intro xs hxs h
    rw [expandList, expandChars_of_no_placeholder h, String.toList_intercalate]
    exact listFields_intercalate hxs
  refine ⟨fun setting x hx => isElement_of_mem_listFields hx, ?_, hjoined, ?_⟩
  · intro a b h
    have htext : (a ++ "," ++ b).toList = a.toList ++ ',' :: b.toList := by
      simp [String.toList_append]
    rw [expandList, htext, expandChars_append_comma lookup _ h, listFields_append_comma,
      ← expandList, ← expandList]
  · intro other setting h
    exact hjoined _ (fun x hx => isElement_of_mem_listFields hx) h

/-- A value brings in two elements and the comma behind it a third one; the list behind the comma
has an opening that is never closed. -/
theorem expandList_splits_open_list :
    let lookup := (Values.ofList [("k", " x, ,y")]).lookup
    let elements := ["$\x7bopen", "z"]
    ¬ opening <:+: (cut "$\x7bk:\x7d-$".toList).last ∧
      expandList lookup ("$\x7bk:\x7d-$" ++ "," ++ "$\x7bopen,z") = ["x", "y-$"] ++ elements ∧
      (∀ x ∈ elements, IsElement x) ∧ hasPlaceholder (",".intercalate elements) = false ∧
      expandList lookup (",".intercalate elements) = elements := by
  intro lookup elements
  obtain ⟨helement, happend, hjoined, -⟩ := expandList_splits lookup
  have hopen : ¬ opening <:+: (cut "$\x7bk:\x7d-$".toList).last := by decide +kernel
  have hfront : expandList lookup "$\x7bk:\x7d-$" = ["x", "y-$"] := by decide +kernel
  have hbehind : expandList lookup "$\x7bopen,z" = elements := by decide +kernel
  have helements : ∀ x ∈ elements, IsElement x := by
    intro x hx
    rw [← hbehind] at hx
    exact helement _ x hx
  have hnone : hasPlaceholder (",".intercalate elements) = false := by decide +kernel
  refine ⟨hopen, ?_, helements, hnone, hjoined elements helements hnone⟩
  rw [happend _ _ hopen, hfront, hbehind]

end Pacts
