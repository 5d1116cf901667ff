import Mathlib.Data.List.DropRight
import Mathlib.Data.List.TakeWhile
import Pacts.Text.Blank
import Pacts.Text.Fields

/-!
# Fields and what stands around them

A list in a setting is read field by field, and the blanks around a field do not count.  Two facts
carry every statement about such lists, and about paths, which are read in the same way.

* `isTrimmed_trim`: what `trim` leaves neither starts nor ends with a blank, and
  `IsTrimmed.trim_eq`: such a text stays as it is.
* `fields_intercalate`: texts with separators between them are cut into these texts again.
-/

set_option autoImplicit false

namespace Pacts

namespace Text

/-! ## Texts without blanks at their ends -/

/-- A text that neither starts nor ends with a blank. -/
structure IsTrimmed (cs : List Char) : Prop where
  first : ∀ c, cs.head? = some c → isBlank c = false
  last : ∀ c, cs.getLast? = some c → isBlank c = false

theorem trimRight_eq_rdropWhile (cs : List Char) : trimRight cs = cs.rdropWhile isBlank := rfl

theorem trim_prefix_trimLeft (cs : List Char) : trim cs <+: trimLeft cs := by
  rw [trim, trimRight_eq_rdropWhile]
  exact List.rdropWhile_prefix isBlank _

theorem trim_sublist (cs : List Char) : (trim cs).Sublist cs :=
  (trim_prefix_trimLeft cs).sublist.trans (List.dropWhile_suffix isBlank).sublist

theorem trim_subset (cs : List Char) : trim cs ⊆ cs := (trim_sublist cs).subset

theorem isTrimmed_trim (cs : List Char) : IsTrimmed (trim cs) := by
  constructor
  · intro c hc
    -- what is left at the front of the text is also in front of what `trimRight` leaves
    obtain ⟨rest, hrest⟩ := trim_prefix_trimLeft cs
    have hhead : (trimLeft cs).head? = some c := by
      rw [← hrest, List.head?_append, hc, Option.some_or]
    have hnot := List.head?_dropWhile_not isBlank cs
    rw [← trimLeft, hhead] at hnot
    exact hnot
  · intro c hc
    have hne : trim cs ≠ [] := by
      rintro he
      rw [he] at hc
      cases hc
    have hlast := List.rdropWhile_last_not isBlank (trimLeft cs) hne
    rw [List.getLast?_eq_some_getLast hne, Option.some.injEq] at hc
    subst hc
    exact eq_false_of_ne_true hlast

theorem IsTrimmed.trim_eq {cs : List Char} (h : IsTrimmed cs) : trim cs = cs := by
  have hleft : trimLeft cs = cs := by
    cases cs with
    | nil => rfl
    | cons c cs => exact trimLeft_of_head (h.first c rfl)
  rw [trim, hleft, trimRight_eq_rdropWhile, List.rdropWhile_eq_self_iff]
  intro hne
  rw [h.last _ (List.getLast?_eq_some_getLast hne)]
  exact Bool.false_ne_true

end Text

theorem length_trimmed_le (s : String) : (trimmed s).length ≤ s.length := by
  rw [trimmed, String.length_ofList, ← String.length_toList]
  exact (Text.trim_sublist s.toList).length_le

/-- A text that is as long as before has lost no blanks. -/
theorem trimmed_eq_of_length {s : String} (h : s.length ≤ (trimmed s).length) : trimmed s = s := by
  rw [trimmed, String.length_ofList, ← String.length_toList] at h
  rw [trimmed, (Text.trim_sublist s.toList).eq_of_length_le h, String.ofList_toList]

namespace Text

/-! ## Texts with separators between them -/

/-- What stands in front of the first separator is seen from the whole text. -/
theorem eq_of_append_sep {sep : Char} {u v s t : List Char} (hu : sep ∉ u) (hv : sep ∉ v)
    (h : u ++ sep :: s = v ++ sep :: t) : u = v := by
  have hfields : fields sep u ++ fields sep s = fields sep v ++ fields sep t := by
    rw [← fields_append_sep, h, fields_append_sep]
  rw [fields_of_not_mem hu, fields_of_not_mem hv] at hfields
  exact (List.cons.inj hfields).1

theorem fields_intercalate {sep : Char} {ws : List (List Char)} (hne : ws ≠ [])
    (h : ∀ w ∈ ws, sep ∉ w) : fields sep ([sep].intercalate ws) = ws := by
  induction ws with
  | nil => exact absurd rfl hne
  | cons w ws ih =>
    have hw : fields sep w = [w] := fields_of_not_mem (h w (by simp))
    cases ws with
    | nil => simpa using hw
    | cons v vs =>
      have hvs : fields sep ([sep].intercalate (v :: vs)) = v :: vs :=
        ih (by simp) fun u hu => h u (List.mem_cons_of_mem _ hu)
      rw [List.intercalate_cons_cons, List.append_assoc, List.singleton_append, fields_append_sep,
        hw, hvs, List.singleton_append]

theorem mem_intercalate {sep c : Char} {ws : List (List Char)} (h : c ∈ [sep].intercalate ws) :
    c = sep ∨ ∃ w ∈ ws, c ∈ w := by
  induction ws with
  | nil => cases h
  | cons w ws ih =>
    cases ws with
    | nil => exact .inr ⟨w, by simp, by simpa using h⟩
    | cons v vs =>
      rw [List.intercalate_cons_cons, List.mem_append, List.mem_append, List.mem_singleton] at h
      rcases h with (h | h) | h
      · exact .inr ⟨w, by simp, h⟩
      · exact .inl h
      · exact (ih h).imp id fun ⟨u, hu, hc⟩ => ⟨u, List.mem_cons_of_mem _ hu, hc⟩

end Text

end Pacts
