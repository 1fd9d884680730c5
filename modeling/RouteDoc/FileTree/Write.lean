import RouteDoc.FileTree.Basic

/-!
# Writing files

* `FileTree.write`: a tree after a file has been written;
* `FileTree.writeFault?`: what keeps a file from being written.
-/

namespace RouteDoc.FileTree

/-- The tree with `t` put at a path, links followed. Directories on the way are
made. -/
def write (tree : FileTree) (here path : FilePath) (t : FileTree) : FileTree :=
  FileTree.insert t ((tree.realPath here path).getD (here.join path)).names tree

/-- What keeps a file of this name from being written in a directory that is
made where there is none, and the path in question. -/
def writeFault? (tree : FileTree) (here directory : FilePath) (name : String) :
    Option (AccessFault × FilePath) :=
  match tree.lookup here directory with
  | .error .missing => none
  | .error fault => some (fault, directory)
  | .ok way =>
    if !(way.target tree).isDirectory then some (.taken, directory)
    else
      let path := directory.join ⟨"", [name]⟩
      match tree.at? here path with
      | some (.closed _) => some (.denied, path)
      | some t => if t.isDirectory then some (.isDirectory, path) else none
      | none => none

end RouteDoc.FileTree
