/-!
# Texts cut at a separator

`fields sep cs` cuts a text at every `sep`.  There is always one field more than there are
separators, so a text without a separator is its own single field, and nothing is lost:
`fields_append_sep` says that a separator between two texts cuts exactly there.
-/

set_option autoImplicit false

namespace Pacts.Text

/-- The pieces of a text between the separators. -/
def fields (sep : Char) : List Char → List (List Char)
  | [] => [[]]
  | c :: cs =>
    if c = sep then [] :: fields sep cs
    else match fields sep cs with
      | [] => [[c]]
      | w :: ws => (c :: w) :: ws

theorem fields_ne_nil (sep : Char) (cs : List Char) : fields sep cs ≠ [] := by
  cases cs with
  | nil => simp [fields]
  | cons c cs =>
    rw [fields]
    split
    · simp
    · split <;> simp

theorem fields_append_sep (sep : Char) (a b : List Char) :
    fields sep (a ++ sep :: b) = fields sep a ++ fields sep b := by
  induction a with
  | nil => simp [fields]
  | cons c cs ih =>
    rw [List.cons_append, fields, fields]
    split
    · simp [ih]
    · rw [ih]
      cases h : fields sep cs with
      | nil => exact absurd h (fields_ne_nil sep cs)
      | cons w ws => simp

theorem fields_of_not_mem {sep : Char} {cs : List Char} (h : sep ∉ cs) : fields sep cs = [cs] := by
  induction cs with
  | nil => rfl
  | cons c cs ih =>
    have hc : c ≠ sep := fun e => h (by simp [e])
    have hcs : sep ∉ cs := fun m => h (by simp [m])
    simp [fields, hc, ih hcs]

theorem sep_not_mem_of_mem_fields {sep : Char} {cs w : List Char} (h : w ∈ fields sep cs) :
    sep ∉ w := by
  induction cs generalizing w with
  | nil => simp_all [fields]
  | cons c cs ih =>
    rw [fields] at h
    split at h
    · rcases List.mem_cons.1 h with rfl | h
      · simp
      · exact ih h
    · rename_i hc
      cases hf : fields sep cs with
      | nil => exact absurd hf (fields_ne_nil sep cs)
      | cons v vs =>
        rw [hf] at h
        rcases List.mem_cons.1 h with rfl | h
        · have := ih (w := v) (by simp [hf])
          simp [this, Ne.symm hc]
        · exact ih (by simp [hf, h])

end Pacts.Text
