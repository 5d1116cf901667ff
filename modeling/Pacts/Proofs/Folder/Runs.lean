import Pacts.Files.Tree
import Pacts.Proofs.Folder.Kept
import Pacts.Proofs.Folder.Paths
import Pacts.Proofs.Folder.Places
import Pacts.Proofs.Folder.Reading

/-!
# What a folder loader keeps

A folder loader is used again and again, for one provider and then for another, and the files of its
directory change in between.  It puts the pacts in their places while it reads, so a load that fails
half way has already changed them, and what was read from a file that is gone stays.

* `Folder.Accepts` and `Folder.Fails` — which pacts a load accepts and for what it fails: for a
  directory whose names cannot be read, or for the first file that cannot be.
* `FolderLoader.Entry` — a load in the course of a run.
* `FolderLoader.sound_of_mem_entries` — what is true of every load of a run.
* `FolderLoader.get?_reached_iff` — what a run leaves under a path, by induction on its loads.
* `FolderLoader.loaded_is_last_taken` — after every run, the loader has under each path what was
  accepted there last.
-/

set_option autoImplicit false

namespace Pacts

/-! ## One load -/

namespace Folder

variable {files : Files} {provider dir : String}

/-- A load of a directory for a provider accepts the pact at a path. -/
def Accepts (files : Files) (provider dir path : String) (pact : Pact) : Prop :=
  ∃ ps, paths files dir = .ok ps ∧ Takes files provider ps path pact

/-- What a load of a directory fails for. -/
inductive Fails (files : Files) (dir : String) : ReadError → Prop
  | unlisted {e : ReadError} (unlisted : paths files dir = .error e) : Fails files dir e
  | unread {ps : List String} {path : String} {e : ReadError} (listed : paths files dir = .ok ps)
      (reaches : Reaches files ps path) (unread : Pact.ofFile files path = .error e) :
      Fails files dir e

theorem Accepts.unique {path : String} {pact other : Pact}
    (h : Accepts files provider dir path pact) (h' : Accepts files provider dir path other) :
    other = pact := by
  obtain ⟨ps, -, htakes⟩ := h
  obtain ⟨ps', -, htakes'⟩ := h'
  exact Except.ok.inj (htakes'.read.symm.trans htakes.read)

theorem accepts_iff_of_paths {ps : List String} (h : paths files dir = .ok ps) {path : String}
    {pact : Pact} : Accepts files provider dir path pact ↔ Takes files provider ps path pact := by
  constructor
  · rintro ⟨ps', h', htakes⟩
    obtain rfl := Except.ok.inj (h.symm.trans h')
    exact htakes
  · intro htakes
    exact ⟨ps, h, htakes⟩

theorem not_accepts_of_error {e : ReadError} (h : paths files dir = .error e) {path : String}
    {pact : Pact} : ¬ Accepts files provider dir path pact := by
  rintro ⟨ps, h', -⟩
  cases h.symm.trans h'

end Folder

namespace FolderLoader

open Folder

/-- What a loader has under a path. -/
def get? (l : FolderLoader) (path : String) : Option Pact := l.loaded.lookup path

variable {l : FolderLoader} {files : Files} {provider : String}

/-- Without its paths a directory is not read at all. -/
theorem load_of_paths_eq_error {e : ReadError} (h : paths files l.dir = .error e) :
    l.load files provider = (l, .error (.pact e)) := by
  rw [load, h]

theorem load_of_paths_eq_ok {ps : List String} (h : paths files l.dir = .ok ps) :
    l.load files provider =
      (⟨l.dir, keepAll l.loaded (readAll files provider ps).1⟩,
        match (readAll files provider ps).2 with
        | none => .ok ((readAll files provider ps).1.map (·.2))
        | some e => .error (.pact e)) := by
  rw [load, h]
  rfl

theorem ordered_load (h : Ordered l.loaded) : Ordered (l.load files provider).1.loaded := by
  cases hp : paths files l.dir with
  | error e => rwa [load_of_paths_eq_error hp]
  | ok ps =>
    rw [load_of_paths_eq_ok hp]
    exact ordered_keepAll h _

theorem load_eq_ok_iff {pacts : List Pact} :
    (l.load files provider).2 = .ok pacts ↔
      ∃ ps read, paths files l.dir = .ok ps ∧ ReadsAs files ps read ∧
        pacts = read.filter (·.provider = provider) := by
  cases h : paths files l.dir with
  | error e => simp [load_of_paths_eq_error h]
  | ok ps =>
    have hread := @readAll_eq_none_iff files provider ps pacts
    rw [load_of_paths_eq_ok h]
    cases hf : (readAll files provider ps).2 <;> simpa [hf] using hread

theorem load_eq_error_iff {e : LoadError} :
    (l.load files provider).2 = .error e ↔ ∃ cause, Fails files l.dir cause ∧ e = .pact cause := by
  constructor
  · intro he
    cases h : paths files l.dir with
    | error cause =>
      rw [load_of_paths_eq_error h] at he
      exact ⟨cause, .unlisted h, (Except.error.inj he).symm⟩
    | ok ps =>
      rw [load_of_paths_eq_ok h] at he
      cases hf : (readAll files provider ps).2 with
      | none => simp [hf] at he
      | some cause =>
        obtain ⟨path, hreaches, hcause⟩ := readAll_eq_some_iff.1 hf
        exact ⟨cause, .unread h hreaches hcause, by simpa [hf] using he.symm⟩
  · rintro ⟨cause, h | ⟨h, hreaches, hcause⟩, rfl⟩
    · rw [load_of_paths_eq_error h]
    · have hf : (readAll files provider _).2 = some cause :=
        readAll_eq_some_iff.2 ⟨_, hreaches, hcause⟩
      simp [load_of_paths_eq_ok h, hf]

theorem get?_load_of_accepts {path : String} {pact : Pact}
    (h : Accepts files provider l.dir path pact) :
    (l.load files provider).1.get? path = some pact := by
  obtain ⟨ps, hp, htakes⟩ := h
  rw [load_of_paths_eq_ok hp]
  exact lookup_keepAll_of_mem (mem_readAll_iff.2 htakes) fun _ hm =>
    htakes.unique (mem_readAll_iff.1 hm)

theorem get?_load_of_not_accepts {path : String}
    (h : ∀ pact, ¬ Accepts files provider l.dir path pact) :
    (l.load files provider).1.get? path = l.get? path := by
  cases hp : paths files l.dir with
  | error e => rw [load_of_paths_eq_error hp]
  | ok ps =>
    rw [load_of_paths_eq_ok hp]
    exact lookup_keepAll_of_not_mem fun pact hm => h pact ⟨ps, hp, mem_readAll_iff.1 hm⟩

/-- What a load comes to does not depend on what was loaded before. -/
theorem result_load_congr {l' : FolderLoader} (h : l'.dir = l.dir) :
    (l'.load files provider).2 = (l.load files provider).2 := by
  cases hp : paths files l.dir with
  | error e => rw [load_of_paths_eq_error hp, load_of_paths_eq_error (h ▸ hp)]
  | ok ps => rw [load_of_paths_eq_ok hp, load_of_paths_eq_ok (h ▸ hp)]

/-- A load that is made again comes to the same. -/
theorem load_load (h : Ordered l.loaded) :
    (l.load files provider).1.load files provider = l.load files provider := by
  have hloaded : ((l.load files provider).1.load files provider).1.loaded =
      (l.load files provider).1.loaded := by
    refine eq_of_lookup_eq (ordered_load (ordered_load h)) (ordered_load h) fun path => ?_
    by_cases ht : ∃ pact, Accepts files provider l.dir path pact
    · obtain ⟨pact, ht⟩ := ht
      have hagain : Accepts files provider (l.load files provider).1.dir path pact :=
        (dir_load l files provider).symm ▸ ht
      exact (get?_load_of_accepts hagain).trans (get?_load_of_accepts ht).symm
    · have hnot : ∀ pact, ¬ Accepts files provider (l.load files provider).1.dir path pact :=
        (dir_load l files provider).symm ▸ fun pact hp => ht ⟨pact, hp⟩
      exact get?_load_of_not_accepts hnot
  exact Prod.ext (congrArg₂ FolderLoader.mk (dir_load _ _ _) hloaded)
    (result_load_congr (dir_load _ _ _))

theorem load_of_names_eq_none (h : files.names l.dir = none) :
    l.load files provider = (l, .ok []) := by
  rw [load_of_paths_eq_ok (paths_of_names_eq_none h)]
  rfl

/-- When the names in the directory cannot be read, that is what a load fails for. -/
theorem load_of_names_eq_error {problem : String}
    (h : files.names l.dir = some (.error problem)) :
    l.load files provider = (l, .error (.pact (.io l.dir problem))) :=
  load_of_paths_eq_error (paths_eq_error_iff.2 ⟨problem, h, rfl⟩)

/-! ## Runs -/

/-- A load in the course of a run. -/
structure Entry where
  before : FolderLoader
  /-- What is on the disk at that time. -/
  files : Files
  provider : String
  result : Except LoadError (List Pact)
  after : FolderLoader

/-- The entries of a run of loads, each with what is on the disk at that time and a provider. -/
def entries (l : FolderLoader) : List (Files × String) → List Entry
  | [] => []
  | (files, provider) :: loads =>
    ⟨l, files, provider, (l.load files provider).2, (l.load files provider).1⟩ ::
      (l.load files provider).1.entries loads

/-- The loader that entries leave. -/
def reached (l : FolderLoader) : List Entry → FolderLoader
  | [] => l
  | entry :: entries => entry.after.reached entries

/-- The load accepts a pact. -/
def Entry.Takes (entry : Entry) (dir path : String) (pact : Pact) : Prop :=
  Accepts entry.files entry.provider dir path pact

/-- What is true of a load from a directory. -/
structure Entry.Sound (entry : Entry) (dir : String) : Prop where
  /-- It succeeds when the names in the directory and all pact files can be read, with the pacts of
  the provider in order of their paths. -/
  ok_iff : ∀ pacts, entry.result = .ok pacts ↔
    ∃ ps read, paths entry.files dir = .ok ps ∧ ReadsAs entry.files ps read ∧
      pacts = read.filter (·.provider = entry.provider)
  /-- It fails with what is wrong with the directory, or with the first file that cannot be read. -/
  error_iff : ∀ e, entry.result = .error e ↔ ∃ cause, Fails entry.files dir cause ∧ e = .pact cause
  /-- What it accepts is kept, whether it fails later or not. -/
  kept : ∀ path pact, entry.Takes dir path pact → entry.after.get? path = some pact
  /-- Everything else is as it was. -/
  left : ∀ path, (∀ pact, ¬ entry.Takes dir path pact) →
    entry.after.get? path = entry.before.get? path

/-- The pact is what was accepted last at the path. -/
def LastTaken (entries : List Entry) (dir path : String) (pact : Pact) : Prop :=
  ∃ earlier entry later, entries = earlier ++ entry :: later ∧ entry.Takes dir path pact ∧
    ∀ e ∈ later, ∀ other, ¬ e.Takes dir path other

theorem lastTaken_cons_iff {first : Entry} {entries : List Entry} {dir path : String}
    {pact : Pact} :
    LastTaken (first :: entries) dir path pact ↔
      LastTaken entries dir path pact ∨
        (first.Takes dir path pact ∧ ∀ e ∈ entries, ∀ other, ¬ e.Takes dir path other) := by
  constructor
  · rintro ⟨earlier, entry, later, he, htakes, hlater⟩
    cases earlier with
    | nil =>
      obtain ⟨rfl, rfl⟩ := List.cons.inj he
      exact .inr ⟨htakes, hlater⟩
    | cons e earlier =>
      obtain ⟨rfl, rfl⟩ := List.cons.inj he
      exact .inl ⟨earlier, entry, later, rfl, htakes, hlater⟩
  · rintro (⟨earlier, entry, later, rfl, htakes, hlater⟩ | ⟨htakes, hlater⟩)
    · exact ⟨first :: earlier, entry, later, rfl, htakes, hlater⟩
    · exact ⟨[], first, entries, rfl, htakes, hlater⟩

theorem dir_reached (l : FolderLoader) (loads : List (Files × String)) :
    (l.reached (l.entries loads)).dir = l.dir := by
  induction loads generalizing l with
  | nil => rfl
  | cons load loads ih => exact (ih _).trans (dir_load _ _ _)

theorem ordered_reached {l : FolderLoader} (h : Ordered l.loaded) (loads : List (Files × String)) :
    Ordered (l.reached (l.entries loads)).loaded := by
  induction loads generalizing l with
  | nil => exact h
  | cons load loads ih => exact ih (ordered_load h)

theorem sound_of_mem_entries {l : FolderLoader} {loads : List (Files × String)} {entry : Entry}
    (h : entry ∈ l.entries loads) : entry.Sound l.dir := by
  induction loads generalizing l with
  | nil => cases h
  | cons load loads ih =>
    rcases List.mem_cons.1 h with rfl | h
    · exact ⟨fun _ => load_eq_ok_iff, fun _ => load_eq_error_iff, fun _ _ => get?_load_of_accepts,
        fun _ => get?_load_of_not_accepts⟩
    · exact dir_load l load.1 load.2 ▸ ih h

/-- After a run stands under a path what was accepted there last, or what stood there when nothing
was. -/
theorem get?_reached_iff (l : FolderLoader) (loads : List (Files × String)) {path : String}
    {pact : Pact} :
    (l.reached (l.entries loads)).get? path = some pact ↔
      LastTaken (l.entries loads) l.dir path pact ∨
        (l.get? path = some pact ∧
          ∀ e ∈ l.entries loads, ∀ other, ¬ e.Takes l.dir path other) := by
  induction loads generalizing l with
  | nil =>
    constructor
    · intro h
      exact .inr ⟨h, by simp [entries]⟩
    · rintro (⟨earlier, entry, later, he, -⟩ | ⟨h, -⟩)
      · simp [entries] at he
      · exact h
  | cons load loads ih =>
    obtain ⟨files, provider⟩ := load
    rw [entries, lastTaken_cons_iff, List.forall_mem_cons]
    have hrest := ih (l.load files provider).1
    rw [dir_load] at hrest
    refine hrest.trans ?_
    by_cases ht : ∃ other, Accepts files provider l.dir path other
    · obtain ⟨other, ht⟩ := ht
      have hget := get?_load_of_accepts ht
      have hiff : (l.load files provider).1.get? path = some pact ↔
          Accepts files provider l.dir path pact := by
        rw [hget]
        exact ⟨fun h => Option.some.inj h ▸ ht, fun h => congrArg some (h.unique ht)⟩
      rw [hiff]
      constructor
      · rintro (h | h)
        · exact .inl (.inl h)
        · exact .inl (.inr h)
      · rintro ((h | h) | ⟨-, h, -⟩)
        · exact .inl h
        · exact .inr h
        · exact absurd ht (h other)
    · have hnot : ∀ other, ¬ Accepts files provider l.dir path other :=
        fun other h => ht ⟨other, h⟩
      rw [get?_load_of_not_accepts hnot]
      constructor
      · rintro (h | ⟨h, hrest⟩)
        · exact .inl (.inl h)
        · exact .inr ⟨h, hnot, hrest⟩
      · rintro ((h | ⟨h, -⟩) | ⟨h, -, hrest⟩)
        · exact .inl h
        · exact absurd h (hnot pact)
        · exact .inr ⟨h, hrest⟩

/-- **A folder loader has what was accepted last.**  Take any run of loads from a directory, for any
providers and whatever happens to the files in between.

The pact files are those found directly in the directory whose names end in `.json` with something
in front of it; they are read in order of their paths, each once if the directory lists no name
twice.  Every load either succeeds, with the pacts of its provider out of all pact files, or fails:
for the directory when that is there but its names cannot be read, and otherwise for the first pact
file that cannot be read, whatever the provider of that file may have been.  It accepts the pacts of
its provider that come before such a file and leaves everything else as it was.  So after the run a
path has the pact that was accepted there last.

To make a load again with the same files changes nothing.  Where there is no directory a load
returns no pacts and changes nothing either, and where the names cannot be read it changes nothing
and fails with the path of the directory. -/
theorem loaded_is_last_taken (dir : String) (loads : List (Files × String)) :
    let start := ofDirectory dir
    let entries := start.entries loads
    let l := start.reached entries
    (∀ files,
      (∀ e, paths files dir = .error e ↔
        ∃ problem, files.names dir = some (.error problem) ∧ e = .io dir problem) ∧
      ∀ ps, paths files dir = .ok ps →
        (∀ path, path ∈ ps ↔ IsPactFile files dir path) ∧ ps.Pairwise (· ≤ ·) ∧
        ((∀ names, files.names dir = some (.ok names) → names.Nodup) → ps.Pairwise (· < ·))) ∧
    (∀ entry ∈ entries, entry.Sound dir) ∧
    (l.dir = dir ∧ Ordered l.loaded) ∧
    (∀ path pact, l.get? path = some pact ↔ LastTaken entries dir path pact) ∧
    (∀ files provider, (l.load files provider).1.load files provider = l.load files provider) ∧
    (∀ files provider, files.names dir = none → l.load files provider = (l, .ok [])) ∧
    ∀ files provider problem, files.names dir = some (.error problem) →
      l.load files provider = (l, .error (.pact (.io dir problem))) := by
  intro start entries l
  have hdir : l.dir = dir := dir_reached start loads
  have hordered : Ordered l.loaded := ordered_reached (l := start) List.Pairwise.nil loads
  refine ⟨fun files => ⟨fun _ => paths_eq_error_iff, fun ps h => ?_⟩, ?_, ⟨hdir, hordered⟩,
    ?_, ?_, ?_, ?_⟩
  · exact ⟨fun _ => mem_paths_iff h, pairwise_le_paths h, pairwise_lt_paths h⟩
  · intro entry he
    exact sound_of_mem_entries he
  · intro path pact
    refine (get?_reached_iff start loads).trans ⟨?_, .inl⟩
    rintro (h | ⟨h, -⟩)
    · exact h
    · cases h
  · intro files provider
    exact load_load hordered
  · intro files provider hnames
    exact load_of_names_eq_none (hdir ▸ hnames)
  · intro files provider problem hnames
    rw [load_of_names_eq_error (hdir ▸ hnames), hdir]

/-! ## A sample -/

namespace Sample

/-- The text of a pact of the consumer `web` with the provider `store`. -/
def pactText : String :=
  "\x7b\"consumer\": \x7b\"name\": \"web\"\x7d, \"provider\": \x7b\"name\": \"store\"\x7d\x7d"

/-- A disk with a directory that holds a pact and a file that breaks off. -/
def disk : Files :=
  ((Files.Tree.empty.withFile "pacts/a.json" pactText.toUTF8).withFile "pacts/b.json"
    "\x7b".toUTF8).files

/-- The same disk when the names in the directory must not be read. -/
def locked : Files := { disk with names := fun _ => some (.error Files.permissionDenied) }

theorem paths_disk : paths disk "pacts" = .ok ["pacts/a.json", "pacts/b.json"] := by
  have hnames : disk.names "pacts" = some (.ok ["a.json", "b.json"]) := by
    have hfound : (disk.names "pacts").bind (·.toOption) = some ["a.json", "b.json"] := by
      decide +kernel
    obtain ⟨result, hresult, hok⟩ := Option.bind_eq_some_iff.1 hfound
    cases result with
    | error problem => cases hok
    | ok names => rw [hresult, Option.some.inj hok]
  have hfilter : ["a.json", "b.json"].filter isPactName = ["a.json", "b.json"] := by
    decide +kernel
  have hsorted : ["a.json", "b.json"].Pairwise fun a b : String => decide (a ≤ b) = true := by
    decide +kernel
  have hpaths : pathsOf "pacts" ["a.json", "b.json"] = ["pacts/a.json", "pacts/b.json"] := by
    rw [pathsOf, hfilter, List.mergeSort_of_pairwise hsorted]
    decide +kernel
  exact paths_eq_ok_iff.2 (.inr ⟨_, hnames, hpaths.symm⟩)

/-- A tree with a directory that holds one pact. -/
def tree : Files.Tree := Files.Tree.empty.withFile "pacts/web.json" pactText.toUTF8

/-- A path to the directory of the tree that leaves no room for a name behind it. -/
def farPath : String := "pacts" ++ Files.Tree.slashes 4085

theorem walk_tree : tree.walk "pacts" = .ok (.inside ["pacts"]) := by rfl

theorem walk_farPath : tree.walk farPath = .ok (.inside ["pacts"]) :=
  Files.Tree.walk_append_slashes walk_tree (by decide +kernel)

theorem names_farPath : tree.files.names farPath = some (.ok []) := by
  have hsize : farPath.utf8ByteSize = 4090 := by
    rw [farPath, String.utf8ByteSize_append, Files.Tree.utf8ByteSize_slashes]
    decide +kernel
  have hnames : ∀ name ∈ tree.nodes.filterMap (Files.Tree.fileNameBelow ["pacts"]),
      8 ≤ name.utf8ByteSize := by decide +kernel
  have hfound : tree.fileNames farPath = some [] :=
    Files.Tree.fileNames_eq_nil walk_farPath fun name hname => by
      rw [hsize]
      exact Nat.le_trans (by decide) (Nat.add_le_add_left (hnames name hname) 4090)
  rw [Files.Tree.names_files, hfound]
  rfl

end Sample

/-- The pact in front of a file that breaks off is kept when the load fails, when the names in the
directory must not be read at the next load, and when the directory is gone after that. -/
theorem loaded_is_last_taken_sample :
    let start := ofDirectory "pacts"
    let entries := start.entries
      [(Sample.disk, "store"), (Sample.locked, "store"), (Files.bare, "store")]
    let l := start.reached entries
    ∃ pact cause, Pact.ofFile Sample.disk "pacts/a.json" = .ok pact ∧
      Pact.ofFile Sample.disk "pacts/b.json" = .error cause ∧
      (start.load Sample.disk "store").2 = .error (.pact cause) ∧
      l.get? "pacts/a.json" = some pact ∧ l.load Files.bare "store" = (l, .ok []) ∧
      l.load Sample.locked "store" =
        (l, .error (.pact (.io "pacts" "Permission denied (os error 13)"))) := by
  intro start entries l
  have hprovider : (Pact.ofFile Sample.disk "pacts/a.json").toOption.map (·.provider) =
      some "store" := by decide +kernel
  have hbroken : (Pact.ofFile Sample.disk "pacts/b.json").toOption.isNone = true := by
    decide +kernel
  have hdenied : Files.permissionDenied = "Permission denied (os error 13)" := by decide +kernel
  obtain ⟨-, hsound, -, hlast, -, hmissing, hlocked⟩ := loaded_is_last_taken "pacts"
    [(Sample.disk, "store"), (Sample.locked, "store"), (Files.bare, "store")]
  cases ha : Pact.ofFile Sample.disk "pacts/a.json" with
  | error e => simp [ha, Except.toOption] at hprovider
  | ok pact =>
    cases hb : Pact.ofFile Sample.disk "pacts/b.json" with
    | ok other => simp [hb, Except.toOption] at hbroken
    | error cause =>
      have hpact : pact.provider = "store" := by simpa [ha, Except.toOption] using hprovider
      have hfailed := (hsound _ List.mem_cons_self).error_iff (.pact cause)
      have hfails : Fails Sample.disk "pacts" cause :=
        .unread Sample.paths_disk ⟨["pacts/a.json"], [], rfl, by simpa using ⟨pact, ha⟩⟩ hb
      refine ⟨pact, cause, rfl, rfl, hfailed.2 ⟨cause, hfails, rfl⟩, (hlast _ _).2 ?_,
        hmissing _ _ rfl, hdenied ▸ hlocked _ _ _ rfl⟩
      refine ⟨[], _, _, rfl,
        ⟨_, Sample.paths_disk, ⟨[], ["pacts/b.json"], rfl, by simp⟩, ha, hpact⟩, ?_⟩
      intro e he other htakes
      rcases List.mem_cons.1 he with rfl | he
      · exact not_accepts_of_error (paths_eq_error_iff.2 ⟨_, rfl, rfl⟩) htakes
      · obtain rfl := List.mem_singleton.1 he
        rw [Entry.Takes, accepts_iff_of_paths (paths_of_names_eq_none rfl)] at htakes
        exact not_takes_nil htakes

/-- What is in the directory does not alone decide how a load ends.  When the names in it must not
be read, a load fails for the directory, with what is wrong with no file in it.  And when the path
of the directory leaves no room for a name behind it, a load succeeds without the pact that is
there. -/
theorem load_of_locked_and_far :
    ((ofDirectory "pacts").load Sample.locked "store" =
        (ofDirectory "pacts", .error (.pact (.io "pacts" "Permission denied (os error 13)"))) ∧
      ∀ name problem, Pact.ofFile Sample.locked (Files.join "pacts" name) ≠
        .error (.io "pacts" problem)) ∧
    Sample.tree.walk Sample.farPath = .ok (.inside ["pacts"]) ∧
    Sample.tree.node? ["pacts", "web.json"] = some (.file Sample.pactText.toUTF8) ∧
    ((Pact.ofFile Sample.tree.files "pacts/web.json").toOption.map (·.provider)) = some "store" ∧
    (ofDirectory Sample.farPath).load Sample.tree.files "store" =
      (ofDirectory Sample.farPath, .ok []) := by
  have hdenied : Files.permissionDenied = "Permission denied (os error 13)" := by decide +kernel
  refine ⟨⟨?_, fun name problem h => ?_⟩, Sample.walk_farPath, rfl, by decide +kernel, ?_⟩
  · exact hdenied ▸ load_of_names_eq_error rfl
  · have hjoin := congrArg String.toList (eq_of_ofFile_eq_io h)
    simp [Files.join] at hjoin
  · have hpaths : paths Sample.tree.files Sample.farPath = .ok [] :=
      paths_eq_ok_iff.2 (.inr ⟨[], Sample.names_farPath, (pathsOf_nil _).symm⟩)
    rw [load_of_paths_eq_ok (l := ofDirectory Sample.farPath) hpaths]
    rfl

end FolderLoader

end Pacts
