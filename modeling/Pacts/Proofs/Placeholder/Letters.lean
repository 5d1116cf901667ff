import Pacts.Proofs.Placeholder.Lists
import Pacts.Text.Letters

/-!
# Placeholders and the case of letters

What opens and closes a placeholder are signs, and signs have no case.  So texts that differ only in
the case of letters both hold placeholders or neither of them does, although the placeholders may be
other ones.  Without placeholders a text is its own expansion.
-/

set_option autoImplicit false

namespace Pacts

/-- A character that is no small letter is the only one that becomes it when it is made small. -/
theorem eq_of_toLower_eq {c d : Char} (hd : d.isLower = false) (h : c.toLower = d) : c = d := by
  by_cases hcapital : c.val ≥ 'A'.val ∧ c.val ≤ 'Z'.val
  · -- 32 characters behind a capital letter stands a small one
    have hval : d.val = c.val + 32 := h ▸ congrArg Char.val (dif_pos hcapital)
    obtain ⟨hA, hZ⟩ := hcapital
    have hfirst : d.val ≥ 'a'.val := by
      rw [hval]
      grind
    have hlast : d.val ≤ 'z'.val := by
      rw [hval]
      grind
    have hlower : d.isLower = true :=
      Bool.and_eq_true_iff.2 ⟨decide_eq_true hfirst, decide_eq_true hlast⟩
    rw [hd] at hlower
    cases hlower
  · exact (dif_neg hcapital).symm.trans h

namespace Placeholder

/-- An opening stays one when the case of letters changes. -/
theorem OpensBehind.of_toLower {front cs ds : List Char} (h : OpensBehind front cs)
    (hl : cs.map Char.toLower = ds.map Char.toLower) : ∃ front', OpensBehind front' ds := by
  obtain ⟨rest, rfl, hm⟩ := h
  rw [List.map_append, List.map_cons, List.map_cons] at hl
  obtain ⟨front', back, rfl, -, hback⟩ := List.map_eq_append_iff.1 hl.symm
  obtain ⟨x, back, rfl, hx, hback⟩ := List.map_eq_cons_iff.1 hback
  obtain ⟨y, rest', rfl, hy, hrest⟩ := List.map_eq_cons_iff.1 hback
  obtain rfl := eq_of_toLower_eq (by decide) hx
  obtain rfl := eq_of_toLower_eq (by decide) hy
  have hclosed : '}'.toLower ∈ rest'.map Char.toLower := hrest ▸ List.mem_map_of_mem hm
  obtain ⟨z, hz, hbrace⟩ := List.mem_map.1 hclosed
  obtain rfl := eq_of_toLower_eq (by decide) hbrace
  exact ⟨front', rest', rfl, hz⟩

theorem CutsInto.not_opensBehind {cs : List Char} {c : Cut} (h : CutsInto cs c)
    (hc : c.holes = []) : ∀ front, ¬ OpensBehind front cs := by
  cases h with
  | last none => exact none
  | hole => cases hc

end Placeholder

open Placeholder

/-- A setting has no placeholder when it has no opening. -/
theorem hasPlaceholder_eq_false_iff {setting : String} :
    hasPlaceholder setting = false ↔ ∀ front, ¬ OpensBehind front setting.toList := by
  constructor
  · intro h
    refine (cutsInto_cut setting.toList).not_opensBehind ?_
    by_contra hne
    rw [hasPlaceholder_iff.2 hne] at h
    cases h
  · intro h
    have hcut : (⟨[], setting.toList⟩ : Cut) = cut setting.toList := (CutsInto.last h).eq_cut
    rw [← Bool.not_eq_true, hasPlaceholder_iff, ← hcut]
    exact not_not_intro rfl

/-- **The case of letters does not matter for whether there are placeholders.** -/
theorem hasPlaceholder_eq_false_of_sameLetters {a b : String} (h : sameLetters a b = true)
    (ha : hasPlaceholder a = false) : hasPlaceholder b = false := by
  rw [hasPlaceholder_eq_false_iff] at ha ⊢
  intro front ho
  rw [sameLetters_iff, lowered, lowered, String.ofList_inj] at h
  obtain ⟨front', ho'⟩ := ho.of_toLower h.symm
  exact ha front' ho'

theorem expand_of_no_placeholder {setting : String} (h : hasPlaceholder setting = false)
    (lookup : Lookup) : expand lookup setting = setting := by
  rw [expand, expandChars_of_no_placeholder h, String.ofList_toList]

end Pacts
