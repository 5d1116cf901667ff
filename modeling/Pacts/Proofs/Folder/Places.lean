import Mathlib.Data.String.Basic
import Pacts.Files.Tree

/-!
# Many paths to one place

In a tree of files there are many paths to the same directory, and some are longer than others.  The
files in it are looked for under the path that was asked for, so what is found in a directory
depends on how it was reached.

* `Tree.walk_append_slashes` — a path to a directory also leads there with more slashes behind it.
* `Tree.fileNames_eq_nil` — under a path that is too long for every name, nothing is found.
-/

set_option autoImplicit false

namespace Pacts.Files.Tree

variable {tree : Tree} {path : String}

/-- So many slashes. -/
def slashes (n : Nat) : String := String.ofList (List.replicate n '/')

@[simp] theorem toList_slashes (n : Nat) : (slashes n).toList = List.replicate n '/' :=
  String.toList_ofList

theorem utf8ByteSize_slashes (n : Nat) : (slashes n).utf8ByteSize = n := by
  rw [slashes, String.utf8ByteSize_ofList]
  induction n with
  | zero => rfl
  | succ n ih => rw [List.replicate_succ, String.utf8Len_cons, ih]; rfl

/-- Slashes at the end of a path do not name anything. -/
theorem names_append_slashes (path : String) (n : Nat) :
    names (path ++ slashes n) = names path := by
  induction n with
  | zero => simp [slashes]
  | succ n ih =>
    rw [← ih]
    have hlist : (path ++ slashes (n + 1)).toList = (path ++ slashes n).toList ++ ['/'] := by
      simp [List.replicate_succ']
    have hfields : Text.fields '/' ((path ++ slashes n).toList ++ ['/']) =
        Text.fields '/' (path ++ slashes n).toList ++ [[]] := Text.fields_append_sep '/' _ []
    rw [names, hlist, hfields]
    simp [names]

/-- Where the walk of a path starts. -/
def start (path : String) : Stop := if path.toList.head? = some '/' then .outside else .inside []

/-- A path leads to a directory of the tree when the walk over its names ends there. -/
theorem walk_eq_inside_iff {place : List String} :
    tree.walk path = .ok (.inside place) ↔
      (¬ path.toList.any (·.toNat = 0) ∧ ¬ path.isEmpty ∧ path.utf8ByteSize < 4096) ∧
        (names path).foldlM (step tree) (start path) = .ok (.inside place) := by
  rw [walk]
  split
  · simp_all
  · split
    · simp_all
    · split
      · rename_i hlong
        simp [Nat.not_lt.2 hlong]
      · rename_i hnul hempty hshort
        have hstart : (if path.toList.head? = some '/' then Stop.outside else .inside []) =
            start path := rfl
        simp only [hnul, hempty, Nat.lt_of_not_le hshort, hstart]
        cases (names path).foldlM (step tree) (start path) with
        | error e => simp [bind, Except.bind]
        | ok stop =>
          cases stop with
          | inside place' => simp [bind, Except.bind]
          | outside => simp [bind, Except.bind]
          | atFile content =>
            simp only [bind, Except.bind]
            split <;> simp_all

theorem start_append (h : ¬ path.isEmpty) (rest : String) : start (path ++ rest) = start path := by
  have hne : path.toList ≠ [] := fun he => h (by simpa using he)
  obtain ⟨c, cs, hpath⟩ := List.exists_cons_of_ne_nil hne
  rw [start, start, String.toList_append, hpath]
  rfl

/-- A path to a directory may end in any number of slashes, unless that makes it too long. -/
theorem walk_append_slashes {place : List String} {n : Nat}
    (h : tree.walk path = .ok (.inside place)) (hsize : path.utf8ByteSize + n < 4096) :
    tree.walk (path ++ slashes n) = .ok (.inside place) := by
  obtain ⟨⟨hnul, hempty, -⟩, hwalk⟩ := walk_eq_inside_iff.1 h
  refine walk_eq_inside_iff.2 ⟨⟨?_, ?_, ?_⟩, ?_⟩
  · have hslashes : ∀ c ∈ List.replicate n '/', ¬ c.toNat = 0 := by
      intro c hc
      rw [(List.mem_replicate.1 hc).2]
      decide
    simp only [String.toList_append, toList_slashes, List.any_append]
    simp_all
  · simp_all
  · rwa [String.utf8ByteSize_append, utf8ByteSize_slashes]
  · rw [names_append_slashes, start_append hempty, hwalk]

/-- No file is found under a path that is too long. -/
theorem lt_of_isFile (h : tree.isFile path = true) : path.utf8ByteSize < 4096 := by
  rw [isFile, walk] at h
  by_contra hlong
  rw [if_pos (Nat.le_of_not_lt hlong)] at h
  split at h
  · rename_i hok
    split at hok
    · cases hok
    · split at hok <;> cases hok
  · cases h

theorem utf8ByteSize_le_join (dir name : String) :
    dir.utf8ByteSize + name.utf8ByteSize ≤ (join dir name).utf8ByteSize := by
  rw [join]
  split
  · exact Nat.le_of_eq String.utf8ByteSize_append.symm
  · rw [String.utf8ByteSize_append, String.utf8ByteSize_append]
    omega

theorem names_files (path : String) : tree.files.names path = (tree.fileNames path).map .ok := rfl

/-- Nothing is found in a directory under a path that is too long for every name in it. -/
theorem fileNames_eq_nil {place : List String} (h : tree.walk path = .ok (.inside place))
    (hlong : ∀ name ∈ tree.nodes.filterMap (fileNameBelow place),
      4096 ≤ path.utf8ByteSize + name.utf8ByteSize) : tree.fileNames path = some [] := by
  rw [fileNames, h]
  refine congrArg some (List.filter_eq_nil_iff.2 fun name hname hfile => ?_)
  have hsize := utf8ByteSize_le_join path name
  have hshort := lt_of_isFile hfile
  have hlong := hlong name hname
  omega

end Pacts.Files.Tree
