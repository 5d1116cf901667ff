import Pacts.Placeholder

/-!
# Which keys an expansion looks up

A setting is scanned once, from the left, and the scan does not know the lookup.  So the keys that
are looked up can be read off the setting alone, however the values look that come back: `keys`
collects them, and lookups that agree on them expand the setting to the same text
(`expand_congr`).

`pieces_induction` is the induction on a text that goes along with the scan; `exists_of_mem_keys`
says that the keys are those of placeholders that stand in the setting.
-/

set_option autoImplicit false

namespace Pacts

/-- Two lookups give the same answers for keys. -/
def Lookup.AgreeOn (keys : List String) (a b : Lookup) : Prop := ∀ k ∈ keys, a k = b k

namespace Lookup.AgreeOn

variable {keys others : List String} {a b : Lookup}

theorem mono (h : AgreeOn keys a b) (hs : ∀ k ∈ others, k ∈ keys) : AgreeOn others a b :=
  fun k hk => h k (hs k hk)

end Lookup.AgreeOn

namespace Placeholder

/-! ## Induction along the scan -/

/-- **Induction along the scan.**  A text is empty, or it starts with a character that is not the
start of a placeholder, or it starts with a placeholder. -/
theorem pieces_induction {motive : List Char → Prop} (nil : motive [])
    (char : ∀ c cs, bodyAt (c :: cs) = none → motive cs → motive (c :: cs))
    (hole : ∀ body rest, '}' ∉ body → motive rest → motive (writtenHole body ++ rest)) :
    ∀ cs, motive cs := by
  intro cs
  induction hn : cs.length using Nat.strongRecOn generalizing cs with
  | ind n ih =>
    cases cs with
    | nil => exact nil
    | cons c cs =>
      cases hb : bodyAt (c :: cs) with
      | none =>
        rw [List.length_cons] at hn
        exact char c cs hb (ih cs.length (by omega) cs rfl)
      | some body =>
        obtain ⟨hbrace, rest, he⟩ := bodyAt_eq_some hb
        have hlength : rest.length < n := by
          rw [← hn, he, writtenHole]
          simp only [List.length_append, List.length_cons]
          omega
        rw [he]
        exact hole body rest hbrace (ih rest.length hlength rest rfl)

/-- The body of a placeholder of a text holds no closing brace. -/
theorem brace_not_mem_of_hole_mem {cs body : List Char} (h : .hole body ∈ pieces cs) :
    '}' ∉ body := by
  induction cs using pieces_induction with
  | nil => cases h
  | char c cs hb ih =>
    rw [pieces_char hb, List.mem_cons] at h
    rcases h with h | h
    · cases h
    · exact ih h
  | hole body' rest hbrace ih =>
    rw [pieces_hole body' rest hbrace, List.mem_cons] at h
    rcases h with h | h
    · cases h
      exact hbrace
    · exact ih h

/-- A placeholder of a text stands in the text. -/
theorem exists_of_hole_mem {cs body : List Char} (h : .hole body ∈ pieces cs) :
    ∃ front rest, cs = front ++ writtenHole body ++ rest := by
  obtain ⟨before, behind, hp⟩ := List.append_of_mem h
  refine ⟨before.flatMap Piece.written, behind.flatMap Piece.written, ?_⟩
  calc cs = (pieces cs).flatMap Piece.written := (written_pieces cs).symm
    _ = _ := by rw [hp, List.flatMap_append, List.flatMap_cons, List.append_assoc]; rfl

/-! ## Keys -/

/-- The key of a piece, if it is a placeholder. -/
def Piece.key? : Piece → Option String
  | .char _ => none
  | .hole body => some (key body)

/-- The keys of the placeholders of a setting. -/
def keys (setting : String) : List String := (pieces setting.toList).filterMap Piece.key?

theorem mem_keys_iff {setting k : String} :
    k ∈ keys setting ↔ ∃ body, .hole body ∈ pieces setting.toList ∧ key body = k := by
  rw [keys, List.mem_filterMap]
  constructor
  · rintro ⟨_ | body, hp, hk⟩
    · cases hk
    · exact ⟨body, hp, Option.some.inj hk⟩
  · rintro ⟨body, hp, rfl⟩
    exact ⟨.hole body, hp, rfl⟩

/-- A key of a setting is that of a placeholder that stands in the setting. -/
theorem exists_of_mem_keys {setting k : String} (h : k ∈ keys setting) :
    ∃ front body rest, setting.toList = front ++ writtenHole body ++ rest ∧ '}' ∉ body ∧
      key body = k := by
  obtain ⟨body, hp, rfl⟩ := mem_keys_iff.1 h
  obtain ⟨front, rest, he⟩ := exists_of_hole_mem hp
  exact ⟨front, body, rest, he, brace_not_mem_of_hole_mem hp, rfl⟩

end Placeholder

open Placeholder Lookup

/-! ## Expansion -/

variable {a b : Lookup}

/-- **An expansion looks up the keys of the setting and nothing else.** -/
theorem expandChars_congr {setting : String} (h : AgreeOn (keys setting) a b) :
    expandChars a setting.toList = expandChars b setting.toList := by
  have hfilled : ∀ p ∈ pieces setting.toList, p.filled a = p.filled b := by
    intro p hp
    cases p with
    | char c => rfl
    | hole body =>
      have hk : a (key body) = b (key body) := h _ (mem_keys_iff.2 ⟨body, hp, rfl⟩)
      simp only [Piece.filled, fill, hk]
  rw [expandChars, expandChars, List.flatMap_def, List.flatMap_def, List.map_congr_left hfilled]

theorem expand_congr {setting : String} (h : AgreeOn (keys setting) a b) :
    expand a setting = expand b setting := by
  rw [expand, expand, expandChars_congr h]

theorem expandList_congr {setting : String} (h : AgreeOn (keys setting) a b) :
    expandList a setting = expandList b setting := by
  rw [expandList, expandList, expandChars_congr h]

/-- The same for a list of settings. -/
theorem flatMap_expandList_congr {settings : List String}
    (h : AgreeOn (settings.flatMap keys) a b) :
    settings.flatMap (expandList a) = settings.flatMap (expandList b) := by
  have heach : ∀ setting ∈ settings, expandList a setting = expandList b setting := by
    intro setting hs
    exact expandList_congr (h.mono fun k hk => List.mem_flatMap.2 ⟨setting, hs, hk⟩)
  rw [List.flatMap_def, List.flatMap_def, List.map_congr_left heach]

end Pacts
