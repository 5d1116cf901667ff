import Mathlib.Data.String.Basic
import Pacts.Proofs.Broker.Names
import Pacts.Proofs.Text.Fields

/-!
# Filling a template

`Links.fillTemplate` takes the parameters one after the other, and each of them replaces its fields
all over the text that the parameters before it have left.  A value that brought in a field, or half
of one, would be filled in turn.  None does: a brace in a value is encoded.

* `Part` is a part of a template, and `Part.filled` what becomes of it when the fields are filled
  all at once, each with the first parameter of its name.
* `fillField_written`: one parameter fills the fields of its name and leaves the other parts alone.
* `fillTemplate_written`: one parameter after the other comes to the same as all at once, and so the
  order of the parameters does not matter when no name is given twice.
-/

set_option autoImplicit false

namespace Pacts

namespace Links

/-- A text without braces. -/
def Braceless (cs : List Char) : Prop := '{' ∉ cs ∧ '}' ∉ cs

instance (cs : List Char) : Decidable (Braceless cs) :=
  inferInstanceAs (Decidable ('{' ∉ cs ∧ '}' ∉ cs))

theorem braceless_encodeName (name : List Char) : Braceless (encodeName name) :=
  ⟨fun h => Bool.false_ne_true (isNameChar_of_mem_encodeName h),
    fun h => Bool.false_ne_true (isNameChar_of_mem_encodeName h)⟩

/-- A part of a template: a text without braces, or a field with its name between braces. -/
inductive Part where
  | text (cs : List Char) (plain : Braceless cs)
  | field (name : String) (plain : Braceless name.toList)

namespace Part

/-- The part as it stands in the template. -/
def written : Part → List Char
  | .text cs _ => cs
  | .field name _ => fieldText name

/-- What becomes of a part when the fields are filled at once. -/
def filled (params : List (String × String)) : Part → List Char
  | .text cs _ => cs
  | .field name _ =>
    match params.lookup name with
    | some value => encodeName value.toList
    | none => fieldText name

/-- The part once the fields of one name are filled. -/
def fill (param : String × String) : Part → Part
  | .text cs plain => .text cs plain
  | .field name plain =>
    if name = param.1 then .text (encodeName param.2.toList) (braceless_encodeName _)
    else .field name plain

/-- One parameter after the other fills a part like all of them at once. -/
theorem written_foldl_fill (params : List (String × String)) (part : Part) :
    (params.foldl (fun p param => p.fill param) part).written = part.filled params := by
  induction params generalizing part with
  | nil => cases part <;> rfl
  | cons param params ih =>
    rw [List.foldl_cons, ih]
    cases part with
    | text cs plain => rfl
    | field name plain =>
      rw [fill]
      split
      · rename_i h
        rw [filled, filled, h, List.lookup_cons_self]
      · rename_i h
        have hne : (name == param.1) = false := beq_eq_false_iff_ne.2 h
        rw [filled, filled, List.lookup_cons, hne]

theorem filled_congr {params others : List (String × String)}
    (h : ∀ name, params.lookup name = others.lookup name) (part : Part) :
    part.filled params = part.filled others := by
  cases part with
  | text cs plain => rfl
  | field name plain => rw [filled, filled, h]

end Part

/-- The text of a template. -/
def template (parts : List Part) : String := String.ofList (parts.flatMap Part.written)

/-! ## One parameter -/

theorem replaceFrom_drop (pattern replacement : List Char) (skip : Nat) (cs : List Char) :
    replaceFrom pattern replacement skip cs = replaceFrom pattern replacement 0 (cs.drop skip) := by
  induction skip generalizing cs with
  | zero => rfl
  | succ skip ih =>
    cases cs with
    | nil => rfl
    | cons c cs => rw [replaceFrom, ih, List.drop_succ_cons]

/-- A text in which the pattern cannot start is passed over. -/
theorem replaceFrom_append_of_not_mem {x : Char} {front : List Char}
    (pattern replacement : List Char) (h : x ∉ front) (cs : List Char) :
    replaceFrom (x :: pattern) replacement 0 (front ++ cs) =
      front ++ replaceFrom (x :: pattern) replacement 0 cs := by
  induction front with
  | nil => rfl
  | cons c front ih =>
    rw [List.mem_cons, not_or] at h
    obtain ⟨hx, hfront⟩ := h
    have hno : (x :: pattern).isPrefixOf (c :: (front ++ cs)) = false := by
      rw [List.isPrefixOf_cons_cons, beq_eq_false_iff_ne.2 hx, Bool.false_and]
    rw [List.cons_append, replaceFrom, hno, if_neg Bool.false_ne_true, ih hfront, List.cons_append]

/-- The pattern itself is replaced. -/
theorem replaceFrom_append_self (x : Char) (pattern replacement cs : List Char) :
    replaceFrom (x :: pattern) replacement 0 (x :: pattern ++ cs) =
      replacement ++ replaceFrom (x :: pattern) replacement 0 cs := by
  have hyes : (x :: pattern).isPrefixOf (x :: (pattern ++ cs)) = true :=
    List.isPrefixOf_iff_prefix.2 (List.prefix_append (x :: pattern) cs)
  rw [List.cons_append, replaceFrom, if_pos hyes, replaceFrom_drop, List.length_cons,
    Nat.add_sub_cancel, List.drop_left]

/-- The field of another name is passed over. -/
theorem replaceFrom_append_field {key name : String} (hkey : Braceless key.toList)
    (hname : Braceless name.toList) (hne : name ≠ key) (replacement cs : List Char) :
    replaceFrom (fieldText key) replacement 0 (fieldText name ++ cs) =
      fieldText name ++ replaceFrom (fieldText key) replacement 0 cs := by
  have hno : (fieldText key).isPrefixOf (fieldText name ++ cs) = false := by
    refine eq_false_of_ne_true fun hp => ?_
    obtain ⟨rest, hrest⟩ : fieldText key <+: fieldText name ++ cs :=
      List.isPrefixOf_iff_prefix.1 hp
    -- up to the closing brace the field of one name is not the start of that of another
    have hbehind : key.toList ++ '}' :: rest = name.toList ++ '}' :: cs := by
      simpa [fieldText] using hrest
    exact hne (String.toList_inj.1 (Text.eq_of_append_sep hkey.2 hname.2 hbehind).symm)
  have hbehind : '{' ∉ name.toList ++ ['}'] := by
    simp [hname.1]
  have hrest := replaceFrom_append_of_not_mem (key.toList ++ ['}']) replacement hbehind cs
  -- the opening brace is looked at and left alone, and behind it no other field can start
  simp only [fieldText, List.cons_append] at hno ⊢
  rw [replaceFrom, hno, if_neg Bool.false_ne_true, hrest]

/-- **One parameter fills the fields of its name.** -/
theorem fillField_written {param : String × String} (hkey : Braceless param.1.toList)
    (parts : List Part) :
    fillField (parts.flatMap Part.written) param =
      (parts.map (Part.fill param)).flatMap Part.written := by
  rw [fillField]
  induction parts with
  | nil => rfl
  | cons part parts ih =>
    rw [List.flatMap_cons, List.map_cons, List.flatMap_cons, ← ih]
    cases part with
    | text cs plain => exact replaceFrom_append_of_not_mem _ _ plain.1 _
    | field name plain =>
      rw [Part.fill]
      split
      · rename_i h
        have hfield : Part.written (.field name plain) = fieldText param.1 := by rw [← h]; rfl
        rw [hfield]
        exact replaceFrom_append_self _ _ _ _
      · rename_i h
        exact replaceFrom_append_field hkey plain h _ _

/-! ## All parameters -/

theorem foldl_fillField_written {params : List (String × String)}
    (h : ∀ p ∈ params, Braceless p.1.toList) (parts : List Part) :
    params.foldl fillField (parts.flatMap Part.written) = parts.flatMap (Part.filled params) := by
  have hfold : params.foldl fillField (parts.flatMap Part.written) =
      (parts.map fun part => params.foldl (fun p param => p.fill param) part).flatMap
        Part.written := by
    induction params generalizing parts with
    | nil => simp
    | cons param params ih =>
      rw [List.foldl_cons, fillField_written (h param (by simp)),
        ih (fun p hp => h p (by simp [hp])), List.map_map]
      rfl
  rw [hfold, List.flatMap_map]
  simp only [Part.written_foldl_fill]

/-- With no name given twice, the order of parameters does not matter. -/
theorem lookup_eq_of_perm {params others : List (String × String)} (h : params.Perm others)
    (hn : (params.map (·.1)).Nodup) (name : String) : params.lookup name = others.lookup name := by
  induction h with
  | nil => rfl
  | cons p _ ih =>
    rw [List.map_cons, List.nodup_cons] at hn
    obtain ⟨k, v⟩ := p
    rw [List.lookup_cons, List.lookup_cons, ih hn.2]
  | swap p q l =>
    simp only [List.map_cons, List.nodup_cons, List.mem_cons, not_or] at hn
    obtain ⟨k, v⟩ := p
    obtain ⟨k', v'⟩ := q
    have hne : k' ≠ k := hn.1.1
    simp only [List.lookup_cons]
    cases hk' : name == k' <;> cases hk : name == k <;> try rfl
    exact absurd ((beq_iff_eq.1 hk').symm.trans (beq_iff_eq.1 hk)) hne
  | trans h₁ _ ih₁ ih₂ =>
    exact (ih₁ hn).trans (ih₂ ((h₁.map _).nodup_iff.1 hn))

/-- **One parameter after the other fills a template like all of them at once.**  Each field is
replaced by the encoded value of the first parameter of its name, or stays as it is when there is
none, whatever the values are; so no value is filled in turn.  When no name is given twice, the
order of the parameters does not matter. -/
theorem fillTemplate_written (parts : List Part) (params : List (String × String))
    (h : ∀ p ∈ params, Braceless p.1.toList) :
    fillTemplate (template parts) params = String.ofList (parts.flatMap (Part.filled params)) ∧
    ((params.map (·.1)).Nodup → ∀ others, params.Perm others →
      fillTemplate (template parts) others = fillTemplate (template parts) params) := by
  have hfill : ∀ ps : List (String × String), (∀ p ∈ ps, Braceless p.1.toList) →
      fillTemplate (template parts) ps = String.ofList (parts.flatMap (Part.filled ps)) := by
    intro ps hps
    rw [fillTemplate, template, String.toList_ofList, foldl_fillField_written hps]
  refine ⟨hfill params h, fun hn others hperm => ?_⟩
  have hfilled : Part.filled others = Part.filled params :=
    funext fun part => (part.filled_congr (lookup_eq_of_perm hperm hn)).symm
  rw [hfill params h, hfill others fun p hp => h p (hperm.mem_iff.2 hp), hfilled]

/-- A value that is the field of the next parameter stays as it is, in either order. -/
theorem fillTemplate_written_of_fields :
    let parts : List Part := [.text "/p/".toList (by decide), .field "a" (by decide),
      .field "c" (by decide), .text "/".toList (by decide), .field "b" (by decide)]
    let params := [("a", "\x7bb\x7d%"), ("b", "x y")]
    template parts = "/p/{a}{c}/{b}" ∧ (∀ p ∈ params, Braceless p.1.toList) ∧
      fillTemplate (template parts) params = "/p/%7Bb%7D%25{c}/x%20y" ∧
      (params.map (·.1)).Nodup ∧ params.Perm params.reverse ∧
      fillTemplate (template parts) params.reverse = "/p/%7Bb%7D%25{c}/x%20y" := by
  intro parts params
  have hkeys : ∀ p ∈ params, Braceless p.1.toList := by decide
  have hn : (params.map (·.1)).Nodup := by decide
  have hperm : params.Perm params.reverse := (List.reverse_perm params).symm
  obtain ⟨hfill, horder⟩ := fillTemplate_written parts params hkeys
  have htext : fillTemplate (template parts) params = "/p/%7Bb%7D%25{c}/x%20y" := by
    rw [hfill]
    decide +kernel
  exact ⟨by decide +kernel, hkeys, htext, hn, hperm, (horder hn _ hperm).trans htext⟩

end Links

end Pacts
