import RouteDoc.FileTree.Basic
import RouteDoc.FileTree.Ignore
import RouteDoc.Settings
import RouteDoc.Text.Utf8

/-!
# Files worth reading

* `accepts`: whether a file is worth reading, by its name and size;
* `Candidate`, `candidate?`: a file with what is known before it is read;
* `readText?`: the text of a file.
-/

namespace RouteDoc

/-- A path from `root` on if it lies below, else as it is. -/
def pathBelow (root : Option FilePath) (path : FilePath) : String :=
  match root.bind path.relativeTo? with
  | some p => p.text
  | none => path.text

/-- Whether one of the patterns excludes a file, by its name in any case or by
its path. -/
def isExcluded (patterns : List String) (root : Option FilePath) (path : FilePath) : Bool :=
  patterns.any fun pattern =>
    Glob.accepts (Text.lower pattern) (Text.lower path.name) ||
      excludes pattern (pathBelow root path)

/-- Whether the name of a file qualifies it. -/
def acceptsName (o : ScanOptions) (path : FilePath) : Bool :=
  o.extensions.contains (Text.lower path.extension) && !isTestName path.name &&
    !isToolingName path.name

/-- Whether the size of a file qualifies it. -/
def acceptsSize (o : ScanOptions) (size : Nat) : Bool := 0 < size && size ≤ o.sizeLimit

/-- Whether a file is worth reading. Patterns apply to its path from `root`
on. -/
def accepts (tree : FileTree) (here : FilePath) (o : ScanOptions) (root : Option FilePath)
    (path : FilePath) : Bool :=
  acceptsName o path && !isExcluded o.excludedPatterns root path &&
    (match tree.at? here path with
      | some t => acceptsSize o t.size
      | none => false)

/-- A file with what is known before it is read. -/
structure Candidate where
  path : String
  size : Nat
  extension : String
  deriving DecidableEq, Repr, Inhabited

/-- The file at a path, if there is one. -/
def candidate? (tree : FileTree) (here path : FilePath) : Option Candidate :=
  (tree.at? here path).map fun t => ⟨path.text, t.size, Text.lower path.extension⟩

/-- The text of a file of at most `limit` bytes, if it can be opened. Bytes that
encode no character are dropped. -/
def readText? (tree : FileTree) (here path : FilePath) (limit : Int) : Option (List Char) :=
  match tree.at? here path with
  | some (.file bytes) => if (bytes.size : Int) ≤ limit then some (Text.decodeUtf8 bytes) else none
  | _ => none

end RouteDoc
