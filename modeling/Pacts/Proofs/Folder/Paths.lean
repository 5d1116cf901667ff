import Mathlib.Data.String.Basic
import Pacts.Load.Folder

/-!
# The pact files of a directory

A directory lists the names of its files in no order that matters.  This file says which of them
are pact files and in which order their paths come.

* `isPactName_iff` — a name ends in `.json` and has something in front of that.
* `paths_eq_error_iff` — there are paths unless the names in the directory cannot be read.
* `mem_paths_iff` — the paths are those of the files with such names.
* `pairwise_le_paths` and `pairwise_lt_paths` — they are in order, and if the directory lists no
  name twice, each of them is there once.
-/

set_option autoImplicit false

namespace Pacts

namespace Folder

/-! ## Names -/

/-- What pact files end in. -/
def extension : String := ".json"

/-- A text with a separator is cut behind its last one. -/
theorem exists_last_field {sep : Char} {cs : List Char} (h : sep ∈ cs) :
    ∃ front last, cs = front ++ sep :: last ∧ sep ∉ last := by
  obtain ⟨last, front, he, hn⟩ := List.eq_append_cons_of_mem (List.mem_reverse.2 h)
  refine ⟨front.reverse, last.reverse, ?_, by simpa using hn⟩
  rw [← List.reverse_reverse cs, he]
  simp

theorem fields_append_last {sep : Char} (front : List Char) {last : List Char} (h : sep ∉ last) :
    Text.fields sep (front ++ sep :: last) = Text.fields sep front ++ [last] := by
  rw [Text.fields_append_sep, Text.fields_of_not_mem h]

theorem fields_eq_singleton_nil_iff {sep : Char} {cs : List Char} :
    Text.fields sep cs = [[]] ↔ cs = [] := by
  constructor
  · intro h
    cases cs with
    | nil => rfl
    | cons c cs =>
      rw [Text.fields] at h
      split at h
      · simp [Text.fields_ne_nil] at h
      · split at h <;> simp at h
  · rintro rfl
    rfl

/-- Behind the last dot stands `json`, and in front of it something else. -/
theorem isPactName_of_last {name : String} {front last : List Char}
    (hname : name.toList = front ++ '.' :: last) (hlast : '.' ∉ last) :
    isPactName name = true ↔ last = "json".toList ∧ front ≠ [] := by
  rw [isPactName, hname, fields_append_last front hlast, List.reverse_append,
    List.reverse_singleton, List.singleton_append, Ne, ← @fields_eq_singleton_nil_iff '.']
  cases hf : (Text.fields '.' front).reverse with
  | nil => exact absurd (List.reverse_eq_nil_iff.1 hf) (Text.fields_ne_nil _ _)
  | cons w ws =>
    have hfields : Text.fields '.' front = ws.reverse ++ [w] := by
      rw [← List.reverse_reverse (Text.fields '.' front), hf, List.reverse_cons]
    have hsingle : ws.reverse ++ [w] = [[]] ↔ ws = [] ∧ w = [] := by
      simp [List.append_eq_singleton_iff]
    rw [hfields, hsingle]
    cases w <;> cases ws <;> simp

theorem isPactName_iff {name : String} :
    isPactName name = true ↔ ∃ stem, stem ≠ [] ∧ name.toList = stem ++ extension.toList := by
  constructor
  · intro h
    by_cases hdot : '.' ∈ name.toList
    · obtain ⟨front, last, hname, hlast⟩ := exists_last_field hdot
      obtain ⟨rfl, hfront⟩ := (isPactName_of_last hname hlast).1 h
      exact ⟨front, hfront, hname⟩
    · rw [isPactName, Text.fields_of_not_mem hdot] at h
      simp at h
  · rintro ⟨stem, hstem, hname⟩
    have hdot : name.toList = stem ++ '.' :: "json".toList := hname
    exact (isPactName_of_last hdot (by decide)).2 ⟨rfl, hstem⟩

/-! ## Paths -/

/-- The path of a file directly in a directory whose name is that of a pact file. -/
def IsPactFile (files : Files) (dir path : String) : Prop :=
  ∃ names name stem, files.names dir = some (.ok names) ∧ name ∈ names ∧
    stem ≠ [] ∧ name.toList = stem ++ extension.toList ∧ path = Files.join dir name

theorem mem_pathsOf_iff {dir path : String} {names : List String} :
    path ∈ pathsOf dir names ↔ ∃ name ∈ names, ∃ stem, stem ≠ [] ∧
      name.toList = stem ++ extension.toList ∧ path = Files.join dir name := by
  simp only [pathsOf, List.mem_map, List.mem_mergeSort, List.mem_filter, isPactName_iff]
  constructor
  · rintro ⟨name, ⟨hmem, stem, hstem, hname⟩, rfl⟩
    exact ⟨name, hmem, stem, hstem, hname, rfl⟩
  · rintro ⟨name, hmem, stem, hstem, hname, rfl⟩
    exact ⟨name, ⟨hmem, stem, hstem, hname⟩, rfl⟩

theorem pathsOf_nil (dir : String) : pathsOf dir [] = [] := by
  simp [pathsOf]

variable {files : Files} {dir : String}

/-- Where there is no directory there are no paths. -/
theorem paths_of_names_eq_none (h : files.names dir = none) : paths files dir = .ok [] := by
  simp [paths, h]

/-- There are no paths to be had exactly when the names in the directory cannot be read. -/
theorem paths_eq_error_iff {e : ReadError} :
    paths files dir = .error e ↔
      ∃ problem, files.names dir = some (.error problem) ∧ e = .io dir problem := by
  rw [paths]
  cases files.names dir with
  | none => simp
  | some result =>
    cases result with
    | error problem => simp [eq_comm]
    | ok names => simp

theorem paths_eq_ok_iff {ps : List String} :
    paths files dir = .ok ps ↔
      (files.names dir = none ∧ ps = []) ∨
        ∃ names, files.names dir = some (.ok names) ∧ ps = pathsOf dir names := by
  rw [paths]
  cases files.names dir with
  | none => simp [eq_comm]
  | some result =>
    cases result with
    | error problem => simp
    | ok names => simp [eq_comm]

theorem mem_paths_iff {ps : List String} (h : paths files dir = .ok ps) {path : String} :
    path ∈ ps ↔ IsPactFile files dir path := by
  obtain ⟨hn, rfl⟩ | ⟨names, hn, rfl⟩ := paths_eq_ok_iff.1 h
  · simp [IsPactFile, hn]
  · rw [mem_pathsOf_iff]
    constructor
    · rintro ⟨name, hmem, stem, hstem, hname, rfl⟩
      exact ⟨names, name, stem, hn, hmem, hstem, hname, rfl⟩
    · rintro ⟨names', name, stem, hn', hmem, hstem, hname, rfl⟩
      obtain rfl : names = names' := by simpa [hn] using hn'
      exact ⟨name, hmem, stem, hstem, hname, rfl⟩

theorem join_eq_append (dir : String) :
    ∃ front : String, ∀ name, Files.join dir name = front ++ name := by
  by_cases h : dir.toList.getLast? = some '/'
  · exact ⟨dir, fun name => if_pos h⟩
  · exact ⟨dir ++ "/", fun name => if_neg h⟩

/-- Paths in a directory are in the order of the names. -/
theorem join_lt_join {a b : String} (h : a < b) : Files.join dir a < Files.join dir b := by
  obtain ⟨front, hfront⟩ := join_eq_append dir
  rw [hfront, hfront, String.lt_iff_toList_lt, String.toList_append, String.toList_append]
  exact List.append_left_lt (String.lt_iff_toList_lt.1 h)

theorem join_le_join {a b : String} (h : a ≤ b) : Files.join dir a ≤ Files.join dir b := by
  rcases eq_or_lt_of_le h with rfl | hlt
  · exact String.le_refl _
  · exact le_of_lt (join_lt_join hlt)

theorem pairwise_le_mergeSort (names : List String) :
    (names.mergeSort fun a b => decide (a ≤ b)).Pairwise (· ≤ ·) := by
  have h : (names.mergeSort fun a b => decide (a ≤ b)).Pairwise fun a b =>
      decide (a ≤ b) = true := List.pairwise_mergeSort
    (fun a b c hab hbc => by
      simp only [decide_eq_true_eq] at hab hbc ⊢
      exact String.le_trans hab hbc)
    (fun a b => by simpa using String.le_total a b) names
  exact h.imp fun hab => of_decide_eq_true hab

theorem pairwise_le_paths {ps : List String} (h : paths files dir = .ok ps) :
    ps.Pairwise (· ≤ ·) := by
  obtain ⟨-, rfl⟩ | ⟨names, -, rfl⟩ := paths_eq_ok_iff.1 h
  · exact List.Pairwise.nil
  · exact List.pairwise_map.2 ((pairwise_le_mergeSort _).imp join_le_join)

/-- When no name is listed twice, the paths are in strict order, so each is there once. -/
theorem pairwise_lt_paths {ps : List String} (h : paths files dir = .ok ps)
    (hnodup : ∀ names, files.names dir = some (.ok names) → names.Nodup) :
    ps.Pairwise (· < ·) := by
  obtain ⟨-, rfl⟩ | ⟨names, hn, rfl⟩ := paths_eq_ok_iff.1 h
  · exact List.Pairwise.nil
  · have hsorted := (pairwise_le_mergeSort _).and
      ((List.mergeSort_perm _ fun a b : String => decide (a ≤ b)).nodup_iff.2
        ((hnodup names hn).filter isPactName))
    exact List.pairwise_map.2
      (hsorted.imp fun ⟨hle, hne⟩ => join_lt_join (lt_of_le_of_ne hle hne))

end Folder

end Pacts
