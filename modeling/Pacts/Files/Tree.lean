import Pacts.Files
import Pacts.Text.Fields

/-!
# A tree of files in memory

The tree maps places to files and directories; a place is the list of names that lead to it.  A path
is walked name by name from the top of the tree, which is the current directory: `.` stays, `..`
goes back, and every other name has to be there.  A path that leaves the tree meets nothing but
directories without files.
-/

set_option autoImplicit false

namespace Pacts.Files

/-- What stands at a place. -/
inductive Node where
  | directory
  | file (content : ByteArray)

/-- The files and directories below the current directory. -/
structure Tree where
  nodes : List (List String × Node)

namespace Tree

/-- The tree without files. -/
def empty : Tree := ⟨[]⟩

/-- What stands at a place; the top is always a directory. -/
def node? (tree : Tree) : List String → Option Node
  | [] => some .directory
  | place => (tree.nodes.find? (·.1 = place)).map (·.2)

/-- The names of a path. -/
def names (path : String) : List String :=
  ((Text.fields '/' path.toList).map String.ofList).filter (!·.isEmpty)

/-- The place that a relative path names, without a look at what is there. -/
def placeOf (path : String) : List String :=
  (names path).foldl
    (fun place name =>
      if name = "." then place else if name = ".." then place.dropLast else place ++ [name]) []

/-- The tree with something else at a place. -/
def set (tree : Tree) (place : List String) (node : Node) : Tree :=
  ⟨tree.nodes.filter (·.1 ≠ place) ++ [(place, node)]⟩

/-- The tree in which a place is a directory, and every place on the way to it. -/
def makeDirectory (tree : Tree) (place : List String) : Tree :=
  (List.range place.length).foldl
    (fun tree n =>
      let above := place.take (n + 1)
      match tree.node? above with
      | some _ => tree
      | none => tree.set above .directory) tree

/-- The tree in which a path leads to a directory. -/
def withDirectory (tree : Tree) (path : String) : Tree := tree.makeDirectory (placeOf path)

/-- The tree in which a path leads to a file of the given content. -/
def withFile (tree : Tree) (path : String) (content : ByteArray) : Tree :=
  let place := placeOf path
  (tree.makeDirectory place.dropLast).set place (.file content)

/-- The tree in which a path leads nowhere. -/
def without (tree : Tree) (path : String) : Tree :=
  ⟨tree.nodes.filter (·.1 ≠ placeOf path)⟩

/-! ## Walking a path -/

/-- Where a walk has got to: a directory of the tree, a directory that is not in the tree, or a
file. -/
inductive Stop where
  | inside (place : List String)
  | outside
  | atFile (content : ByteArray)

/-- One step of a walk. -/
def step (tree : Tree) (stop : Stop) (name : String) : Except String Stop :=
  match stop with
  | .atFile _ => .error notADirectory
  | .outside =>
    if name = "." ∨ name = ".." then .ok .outside
    else if 255 < name.utf8ByteSize then .error nameTooLong
    else .error noSuchFile
  | .inside place =>
    if name = "." then .ok (.inside place)
    else if name = ".." then
      match place with
      | [] => .ok .outside
      | _ :: _ => .ok (.inside place.dropLast)
    else if 255 < name.utf8ByteSize then .error nameTooLong
    else match tree.node? (place ++ [name]) with
      | none => .error noSuchFile
      | some .directory => .ok (.inside (place ++ [name]))
      | some (.file content) => .ok (.atFile content)

/-- Where a path leads. -/
def walk (tree : Tree) (path : String) : Except String Stop :=
  if path.toList.any (·.toNat = 0) then
    .error "file name contained an unexpected NUL byte"
  else if path.isEmpty then .error noSuchFile
  else if 4096 ≤ path.utf8ByteSize then .error nameTooLong
  else do
    let start := if path.toList.head? = some '/' then Stop.outside else .inside []
    let stop ← (names path).foldlM (step tree) start
    match stop, path.toList.getLast? with
    | .atFile _, some '/' => .error notADirectory
    | stop, _ => .ok stop

/-- The content of the file that a path leads to. -/
def bytes (tree : Tree) (path : String) : Except String ByteArray := do
  match ← tree.walk path with
  | .atFile content => .ok content
  | _ => .error isADirectory

/-- The name of a node that is a file directly below a place. -/
def fileNameBelow (place : List String) : List String × Node → Option String
  | (p, .file _) => if p.dropLast = place then p.getLast? else none
  | (_, .directory) => none

/-- Whether a path leads to a file. -/
def isFile (tree : Tree) (path : String) : Bool :=
  match tree.walk path with
  | .ok (.atFile _) => true
  | _ => false

/-- The names of the files in the directory that a path leads to.  A file is looked for under its
own path, which may be too long although that of the directory is not. -/
def fileNames (tree : Tree) (path : String) : Option (List String) :=
  match tree.walk path with
  | .ok (.inside place) =>
    some ((tree.nodes.filterMap (fileNameBelow place)).filter fun name =>
      tree.isFile (join path name))
  | .ok .outside => some []
  | _ => none

/-- The view of a tree, which lets the names in every directory be read. -/
def files (tree : Tree) : Files := ⟨tree.bytes, fun path => (tree.fileNames path).map .ok⟩

end Tree

end Pacts.Files
