import Pacts.Proofs.Text.Fields
import Pacts.Url.Parse

/-!
# Paths that are read from the root

A text that starts with a single slash names a path on the host of a base.  This file says which
segments that path has.

* `mem_addSegments` and `addSegments_eq_self_iff`: a segment of dots never stays, and where there is
  none every segment does.
* `resolve_rooted`: a path of plain segments comes to these segments, without those of dots, and
  everything in front of the path is that of the base.

Plain segments are made of characters that a URL keeps as they are.  So nothing is said here of
blanks, backslashes and marks that would be dropped, turned or encoded on the way.
-/

set_option autoImplicit false

namespace Pacts

namespace Url

/-! ## Segments of dots -/

/-- Whether a segment means to stay or to go back. -/
def isDotSegment (segment : String) : Bool := isSingleDot segment || isDoubleDot segment

theorem isDotSegment_ofList_iff {cs : List Char} :
    isDotSegment (String.ofList cs) = true ↔
      cs.map Char.toLower ∈ [['.'], ['%', '2', 'e'], ['.', '.'], ['%', '2', 'e', '.'],
        ['.', '%', '2', 'e'], ['%', '2', 'e', '%', '2', 'e']] := by
  simp only [isDotSegment, isSingleDot, isDoubleDot, lowered, String.toList_ofList, Bool.or_eq_true,
    beq_iff_eq, ← String.toList_inj, String.reduceToList, List.mem_cons, List.not_mem_nil, or_false,
    or_assoc]

theorem addSegment_of_not_dot {segment : String} (h : isDotSegment segment = false) (last : Bool)
    (segments : List String) : addSegment false last segments segment = segments ++ [segment] := by
  obtain ⟨hsingle, hdouble⟩ := Bool.or_eq_false_iff.1 h
  rw [addSegment, hdouble, hsingle]
  simp

theorem mem_addSegment {last : Bool} {segments : List String} {segment s : String}
    (h : s ∈ addSegment false last segments segment) :
    s ∈ segments ∨ (s = segment ∧ isDotSegment s = false) ∨ s = "" := by
  cases hd : isDotSegment segment with
  | false =>
    rw [addSegment_of_not_dot hd, List.mem_append, List.mem_singleton] at h
    rcases h with h | rfl
    · exact .inl h
    · exact .inr (.inl ⟨rfl, hd⟩)
  | true =>
    -- going back takes a segment away, and at the end an empty one is left
    have hback : ∀ x ∈ shortened false segments, x ∈ segments := fun x hx =>
      List.dropLast_subset segments hx
    have hend : ∀ front : List String, (∀ x ∈ front, x ∈ segments) →
        (s ∈ if last then front ++ [""] else front) → s ∈ segments ∨ s = "" := by
      intro front hfront hs
      split at hs
      · rcases List.mem_append.1 hs with hs | hs
        · exact .inl (hfront s hs)
        · exact .inr (List.mem_singleton.1 hs)
      · exact .inl (hfront s hs)
    rw [addSegment] at h
    have hor : s ∈ segments ∨ s = "" := by
      split at h
      · exact hend _ hback h
      · rename_i hdouble
        split at h
        · exact hend _ (fun x hx => hx) h
        · rename_i hsingle
          rw [isDotSegment, Bool.or_eq_true] at hd
          exact absurd hd (not_or.2 ⟨hsingle, hdouble⟩)
    exact hor.imp id .inr

theorem addSegments_of_not_dot {names : List String} (h : ∀ n ∈ names, isDotSegment n = false)
    (segments : List String) : addSegments false segments names = segments ++ names := by
  fun_induction addSegments false segments names with
  | case1 segments => rw [List.append_nil]
  | case2 segments s => exact addSegment_of_not_dot (h s (by simp)) true segments
  | case3 segments s t rest ih =>
    rw [ih fun n hn => h n (List.mem_cons_of_mem _ hn), addSegment_of_not_dot (h s (by simp)),
      List.append_assoc, List.singleton_append]

/-- A segment of the path that is read is not one of dots. -/
theorem mem_addSegments {names segments : List String} {s : String}
    (h : s ∈ addSegments false segments names) :
    s ∈ segments ∨ (s ∈ names ∧ isDotSegment s = false) ∨ s = "" := by
  fun_induction addSegments false segments names with
  | case1 segments => exact .inl h
  | case2 segments t =>
    rcases mem_addSegment h with h | ⟨rfl, hd⟩ | h
    · exact .inl h
    · exact .inr (.inl ⟨by simp, hd⟩)
    · exact .inr (.inr h)
  | case3 segments t u rest ih =>
    rcases ih h with h | ⟨h, hd⟩ | h
    · rcases mem_addSegment h with h | ⟨rfl, hd⟩ | h
      · exact .inl h
      · exact .inr (.inl ⟨by simp, hd⟩)
      · exact .inr (.inr h)
    · exact .inr (.inl ⟨List.mem_cons_of_mem _ h, hd⟩)
    · exact .inr (.inr h)

/-- **Segments all stay when none of them is one of dots**, and not otherwise. -/
theorem addSegments_eq_self_iff {names : List String} :
    addSegments false [] names = names ↔ ∀ n ∈ names, isDotSegment n = false := by
  constructor
  · intro h n hn
    rw [← h] at hn
    rcases mem_addSegments hn with hn | ⟨-, hd⟩ | rfl
    · cases hn
    · exact hd
    · rfl
  · intro h
    rw [addSegments_of_not_dot h, List.nil_append]

/-! ## Plain segments -/

/-- The characters that stand for themselves in a segment and do not end it. -/
def isSegmentChar (c : Char) : Bool := plainInPath c && !isSlash true c

theorem isSegmentChar_iff {c : Char} :
    isSegmentChar c = true ↔ plainInPath c = true ∧ c ≠ '/' ∧ c ≠ '\\' := by
  simp [isSegmentChar, isSlash]

theorem printable_of_isSegmentChar {c : Char} (h : isSegmentChar c = true) :
    0x20 < c.toNat ∧ endsPath c = false := by
  have hplain := (isSegmentChar_iff.1 h).1
  simp only [plainInPath, printableBut, Bool.and_eq_true, decide_eq_true_eq,
    Bool.not_eq_true'] at hplain
  obtain ⟨⟨hlow, -⟩, hbut⟩ := hplain
  have hne : ∀ d : Char, plainInPath d = false → c ≠ d := by
    rintro d hd rfl
    rw [(isSegmentChar_iff.1 h).1] at hd
    cases hd
  constructor
  · refine Nat.lt_of_le_of_ne hlow fun he => hne ' ' (by decide) ?_
    rw [← Char.ofNat_toNat c, ← he]
  · rw [endsPath, beq_eq_false_iff_ne.2 (hne '?' (by decide)),
      beq_eq_false_iff_ne.2 (hne '#' (by decide)), Bool.false_or]

/-- A text of printable characters is clean. -/
theorem cleaned_eq_self {cs : List Char} (h : ∀ c ∈ cs, 0x20 < c.toNat) : cleaned cs = cs := by
  have hdrop : ∀ ds : List Char, (∀ c ∈ ds, 0x20 < c.toNat) →
      ds.dropWhile (fun c => decide (c.toNat ≤ 0x20)) = ds := by
    intro ds hds
    cases ds with
    | nil => rfl
    | cons d ds =>
      have hd : decide (d.toNat ≤ 0x20) = false :=
        decide_eq_false (Nat.not_le.2 (hds d (by simp)))
      rw [List.dropWhile_cons, hd, if_neg Bool.false_ne_true]
  have hfilter : cs.filter (fun c => c ≠ '\t' ∧ c ≠ '\n' ∧ c ≠ '\r') = cs := by
    rw [List.filter_eq_self]
    intro c hc
    have hlow := h c hc
    refine decide_eq_true ⟨?_, ?_, ?_⟩ <;>
    · rintro rfl
      exact absurd hlow (by decide)
  rw [cleaned, hdrop cs h, hdrop _ fun c hc => h c (List.mem_reverse.1 hc), List.reverse_reverse]
  exact hfilter

theorem encoded_eq_self {cs : List Char} (h : ∀ c ∈ cs, isSegmentChar c = true) :
    encoded plainInPath cs = String.ofList cs := by
  rw [encoded, Text.percentEncode_of_plain fun c hc => (isSegmentChar_iff.1 (h c hc)).1]

section Rooted

variable {names : List String}

/-- The text of segments, with slashes between them. -/
def slashed (names : List String) : List Char := ['/'].intercalate (names.map String.toList)

theorem mem_slashed {c : Char} (h : ∀ n ∈ names, ∀ c ∈ n.toList, isSegmentChar c = true)
    (hc : c ∈ slashed names) : c = '/' ∨ isSegmentChar c = true := by
  rcases Text.mem_intercalate hc with hc | ⟨w, hw, hc⟩
  · exact .inl hc
  · obtain ⟨n, hn, rfl⟩ := List.mem_map.1 hw
    exact .inr (h n hn c hc)

/-- Behind a first segment that is not empty there is no second slash. -/
theorem exists_slashed {first : String} (hfirst : first ≠ "")
    (h : ∀ c ∈ first.toList, isSegmentChar c = true) :
    ∃ d ds, slashed (first :: names) = d :: ds ∧ isSegmentChar d = true := by
  obtain ⟨d, ds, hd⟩ := List.exists_cons_of_ne_nil fun he => hfirst (String.toList_eq_nil_iff.1 he)
  have hsegment : isSegmentChar d = true := h d (by rw [hd]; exact List.mem_cons_self)
  cases names with
  | nil => exact ⟨d, ds, by simpa [slashed] using hd, hsegment⟩
  | cons n names =>
    refine ⟨d, ds ++ ['/'] ++ slashed (n :: names), ?_, hsegment⟩
    rw [slashed, List.map_cons, List.map_cons, List.intercalate_cons_cons, hd]
    rfl

theorem splitPath_slashed (hne : names ≠ []) (special : Bool)
    (h : ∀ n ∈ names, ∀ c ∈ n.toList, isSegmentChar c = true) :
    splitPath special (slashed names) = names.map String.toList := by
  have hslash : (slashed names).map (fun c => if isSlash special c then '/' else c) =
      slashed names := by
    refine (List.map_congr_left fun c hc => ?_).trans (List.map_id _)
    rcases mem_slashed h hc with rfl | hc
    · split <;> rfl
    · obtain ⟨-, hslash, hback⟩ := isSegmentChar_iff.1 hc
      have hno : isSlash special c = false := by
        rw [isSlash, beq_eq_false_iff_ne.2 hslash, beq_eq_false_iff_ne.2 hback, Bool.and_false,
          Bool.false_or]
      rw [hno]
      rfl
  rw [splitPath, hslash, slashed]
  refine Text.fields_intercalate (by simpa using hne) fun w hw => ?_
  obtain ⟨n, hn, rfl⟩ := List.mem_map.1 hw
  exact fun hc => (isSegmentChar_iff.1 (h n hn _ hc)).2.1 rfl

/-- Plain segments are read as they are. -/
theorem readPath_slashed {scheme : String} (hfile : scheme ≠ fileScheme) (hne : names ≠ [])
    (h : ∀ n ∈ names, ∀ c ∈ n.toList, isSegmentChar c = true) :
    readPath scheme [] (slashed names) = addSegments false [] names := by
  have hnames : (names.map String.toList).map (encoded plainInPath) = names := by
    rw [List.map_map]
    refine (List.map_congr_left fun n hn => ?_).trans (List.map_id _)
    rw [Function.comp_apply, encoded_eq_self (h n hn), String.ofList_toList]
    rfl
  have hno : (scheme == fileScheme) = false := beq_eq_false_iff_ne.2 hfile
  simp only [readPath, splitPath_slashed hne _ h, hnames, hno]
  rfl

/-- A path that nothing ends is the whole of what is read. -/
theorem withPathOf_of_not_endsPath (u : Url) (segments : List String) {cs : List Char}
    (h : ∀ c ∈ cs, endsPath c = false) :
    u.withPathOf segments cs =
      { u with
        path := .segments (readPath u.scheme segments cs), query := none, fragment := none } := by
  have hnot : ∀ c ∈ cs, (!endsPath c) = true := fun c hc => by rw [h c hc]; rfl
  rw [withPathOf, cutAt, List.takeWhile_eq_self_iff.2 hnot, List.dropWhile_eq_nil_iff.2 hnot]
  rfl

theorem splitScheme_slash (cs : List Char) : splitScheme ('/' :: cs) = none := rfl

/-- A single slash leads to the root of the base. -/
theorem readRelative_slash (base : Url) {d : Char} {ds : List Char} (hslash : d ≠ '/')
    (hback : d ≠ '\\') :
    readRelative base ('/' :: d :: ds) = .ok (base.upToPath.withPathOf [] (d :: ds)) := by
  simp [readRelative, hslash, hback]

end Rooted

/-- **A path of plain segments from the root.**  It takes the place of the path of the base, without
segments of dots; the user, the host and the port are those of the base, and there is neither a
query nor a fragment. -/
theorem resolve_rooted {base : Url} {segments : List String}
    (hpath : base.path = .segments segments) (hfile : base.scheme ≠ fileScheme)
    {first : String} {names : List String} (hfirst : first ≠ "")
    (h : ∀ n ∈ first :: names, ∀ c ∈ n.toList, isSegmentChar c = true) :
    resolve base ("/" ++ "/".intercalate (first :: names)) =
      .ok { base with
        path := .segments (addSegments false [] (first :: names)), query := none,
        fragment := none } := by
  have htext : ("/" ++ "/".intercalate (first :: names)).toList =
      '/' :: slashed (first :: names) := by
    rw [String.toList_append, String.toList_intercalate]
    rfl
  have hchars : ∀ c ∈ slashed (first :: names), 0x20 < c.toNat ∧ endsPath c = false := by
    intro c hc
    rcases mem_slashed h hc with rfl | hc
    · decide
    · exact printable_of_isSegmentChar hc
  have hclean : cleaned ('/' :: slashed (first :: names)) = '/' :: slashed (first :: names) := by
    refine cleaned_eq_self fun c hc => ?_
    rcases List.mem_cons.1 hc with rfl | hc
    · decide
    · exact (hchars c hc).1
  obtain ⟨d, ds, hslashed, hd⟩ := exists_slashed hfirst (h first (by simp))
  obtain ⟨-, hslash, hback⟩ := isSegmentChar_iff.1 hd
  rw [resolve, read, htext]
  simp only [hclean, splitScheme_slash, hpath, if_neg hfile]
  rw [hslashed, readRelative_slash base hslash hback, ← hslashed,
    withPathOf_of_not_endsPath _ _ fun c hc => (hchars c hc).2]
  have hread : readPath base.scheme [] (slashed (first :: names)) =
      addSegments false [] (first :: names) := readPath_slashed hfile (List.cons_ne_nil _ _) h
  rw [← hread]
  rfl

end Url

end Pacts
