import RouteDoc.Diagnostic
import RouteDoc.FileTree.Candidate

/-!
# Walking a tree

Directories are visited before the files beside them, in the order of their
names. The walk ends with the file that fills the limit.

* `FileTree.sorted`: a tree with all entries in the order of their names;
* `WalkFrame.fileAt?`: the file in an entry, if it is worth reading;
* `Harvest`, `walkDirectory`: what a walk gathers on its way;
* `walk`: the candidates found, in the order of their paths.
-/

namespace RouteDoc

namespace FileTree

mutual

/-- The tree with the entries of each directory in the order of their names. -/
def sorted : FileTree → FileTree
  | directory entries => directory ((sortedEach entries).mergeSort fun a b => a.1 ≤ b.1)
  | sealed entries => sealed ((sortedEach entries).mergeSort fun a b => a.1 ≤ b.1)
  | file bytes => file bytes
  | closed size => closed size
  | link target => link target

/-- The entries, each sorted in itself. -/
def sortedEach : List (String × FileTree) → List (String × FileTree)
  | [] => []
  | (name, t) :: rest => (name, sorted t) :: sortedEach rest

end

end FileTree

/-- What stays the same during a walk: the whole tree, the options, and the
directory where the walk starts. -/
structure WalkFrame where
  tree : FileTree
  options : ScanOptions
  root : FilePath

namespace WalkFrame

/-- Whether a directory of this name is entered. -/
def enters (w : WalkFrame) (name : String) : Bool :=
  !isIgnoredDirectory name w.options.excludedDirectories

/-- Whether an entry is a file, or a link to one, and worth reading. -/
def takes (w : WalkFrame) (path : FilePath) : Bool :=
  (w.tree.at? w.root path).any FileTree.isFile &&
    accepts w.tree w.root w.options (some w.root) path

/-- The file in an entry under its path without links. -/
def resolved (w : WalkFrame) (path : FilePath) : Option Candidate :=
  (w.tree.realPath w.root path).bind (candidate? w.tree w.root)

/-- The file in an entry, if it is worth reading. -/
def fileAt? (w : WalkFrame) (path : FilePath) : Option Candidate :=
  if w.takes path then w.resolved path else none

end WalkFrame

/-- What a walk has gathered so far: files, and reports of directories that cannot
be listed. -/
structure Harvest where
  files : Array Candidate := #[]
  reports : Array Diagnostic := #[]
  deriving Inhabited

namespace Harvest

/-- With one more file. -/
def keep (h : Harvest) (c : Candidate) : Harvest := { h with files := h.files.push c }

/-- With a report of a directory. -/
def report (h : Harvest) (path : FilePath) (fault : AccessFault) : Harvest :=
  { h with reports := h.reports.push (.unreadableDirectory path.text (fault.report path.text)) }

end Harvest

/-- What has been gathered when a part of a walk ends, and whether the limit ended
it. -/
abbrev Walked := Harvest × Bool

/-- The next part of a walk, unless the limit has ended it. -/
def Walked.andThen (r : Walked) (next : Harvest → Walked) : Walked :=
  if r.2 then r else next r.1

/-- Gathers the files among some entries. -/
def walkFiles (w : WalkFrame) (path : FilePath) : List (String × FileTree) → Harvest → Walked
  | [], h => (h, false)
  | (name, t) :: rest, h =>
    match if t.isDirectory then none else w.fileAt? (path.join ⟨"", [name]⟩) with
    | none => walkFiles w path rest h
    | some c =>
      let h := h.keep c
      if w.options.maxFiles ≤ h.files.size then (h, true) else walkFiles w path rest h

mutual

/-- Gathers what is in and below a directory. -/
def walkDirectory (w : WalkFrame) (path : FilePath) : FileTree → Harvest → Walked
  | .directory entries, h => (walkBelow w path entries h).andThen (walkFiles w path entries)
  | .sealed _, h => (h.report path .denied, false)
  | _, h => (h.report path .notDirectory, false)

/-- Gathers what is below the directories among some entries. -/
def walkBelow (w : WalkFrame) (path : FilePath) : List (String × FileTree) → Harvest → Walked
  | [], h => (h, false)
  | (name, t) :: rest, h =>
    if t.isDirectory && w.enters name then
      (walkDirectory w (path.join ⟨"", [name]⟩) t h).andThen (walkBelow w path rest)
    else walkBelow w path rest h

end

/-- What a walk has found and what is reported about it. -/
structure WalkResult where
  files : List Candidate
  diagnostics : List Diagnostic
  truncated : Bool
  deriving Inhabited

/-- All that a walk gathers from a directory on. -/
def walkFrom (tree : FileTree) (o : ScanOptions) (root : FilePath) : Walked :=
  match tree.lookup root root with
  | .ok way => walkDirectory ⟨tree, o, root⟩ root (way.target tree).sorted {}
  | .error fault => (Harvest.report {} root fault, false)

/-- The candidates in and below a directory, in the order of their paths. -/
def walk (tree : FileTree) (o : ScanOptions) (root : FilePath) : WalkResult :=
  let (h, truncated) := walkFrom tree o root
  { files := h.files.toList.mergeSort fun a b => a.path ≤ b.path
    diagnostics := h.reports.toList ++
      (if truncated then [.fileLimit root.text o.maxFiles] else [])
    truncated }

end RouteDoc
