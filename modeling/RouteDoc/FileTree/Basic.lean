import RouteDoc.FileTree.Path

/-!
# Trees of files

A file system as a value: directories with their entries, files with their bytes,
and links.

* `FileTree`: the trees;
* `FileTree.lookup`: what stands at a path, links followed;
* `FileTree.realPath`: a path without links and double points;
* `AccessFault`: why something cannot be accessed;
* `FileTree.insert`: a tree with something put at a place.
-/

namespace RouteDoc

/-- A file, a file that cannot be opened, a directory, a directory that cannot be
listed, or a link. What is in a directory that cannot be listed may still be there for
those who know its name; of a file that cannot be opened there is only its size. -/
inductive FileTree where
  | file (bytes : ByteArray)
  | closed (size : Nat)
  | directory (entries : List (String × FileTree))
  | sealed (entries : List (String × FileTree))
  | link (target : String)
  deriving Inhabited

/-- Why something cannot be accessed. -/
inductive AccessFault
  | missing
  | denied
  | taken
  | notDirectory
  | isDirectory
  | tooManyLinks
  deriving DecidableEq, Repr

namespace AccessFault

/-- The number of a fault. -/
def number : AccessFault → Nat
  | missing => 2
  | denied => 13
  | taken => 17
  | notDirectory => 20
  | isDirectory => 21
  | tooManyLinks => 40

/-- The wording of a fault. -/
def reason : AccessFault → String
  | missing => "No such file or directory"
  | denied => "Permission denied"
  | taken => "File exists"
  | notDirectory => "Not a directory"
  | isDirectory => "Is a directory"
  | tooManyLinks => "Too many levels of symbolic links"

/-- A text in quotes; control characters, backslashes and the quotes themselves
are escaped. -/
def quoted (s : String) : String :=
  let mark := if s.toList.contains '\'' && !s.toList.contains '"' then '"' else '\''
  let hex := fun n => (Nat.toDigits 16 (n / 16)) ++ (Nat.toDigits 16 (n % 16))
  let escape := fun c =>
    if c == mark || c == '\\' then ['\\', c]
    else if c == '\n' then ['\\', 'n']
    else if c == '\r' then ['\\', 'r']
    else if c == '\t' then ['\\', 't']
    else if c.toNat < 0x20 || (0x7F ≤ c.toNat && c.toNat ≤ 0xA0) then '\\' :: 'x' :: hex c.toNat
    else [c]
  String.ofList (mark :: (s.toList.flatMap escape ++ [mark]))

/-- A report of a fault at a path. -/
def report (f : AccessFault) (path : String) : String :=
  s!"[Errno {f.number}] {f.reason}: {quoted path}"

/-- A report of links that lead in a circle. -/
def circleReport (path : String) : String := s!"Symlink loop from {quoted path}"

end AccessFault

namespace FileTree

/-- The entries of a directory. -/
def entries : FileTree → List (String × FileTree)
  | directory entries | sealed entries => entries
  | _ => []

/-- The entry of a name, if the tree is a directory. -/
def child? (t : FileTree) (name : String) : Option FileTree :=
  (t.entries.find? (·.1 == name)).map (·.2)

/-- Whether the tree is a directory. -/
def isDirectory : FileTree → Bool
  | directory _ | sealed _ => true
  | _ => false

/-- Whether the tree is a file. -/
def isFile : FileTree → Bool
  | file _ | closed _ => true
  | _ => false

/-- The size that is reported. That of directories is a block. -/
def size : FileTree → Nat
  | file bytes => bytes.size
  | closed size => size
  | _ => 4096

/-- The names on the way to a place, innermost first, each with what stands
there. -/
abbrev Way := List (String × FileTree)

/-- What stands at the end of a way. -/
def Way.target (w : Way) (root : FileTree) : FileTree := (w.head?.map (·.2)).getD root

/-- The names of a way, outermost first. -/
def Way.names (w : Way) : List String := w.reverse.map (·.1)

/-- The most links that are followed on one way. -/
def maxLinks : Nat := 40

/-- The way on from `way` by some names, following up to `links` links. -/
def follow (root : FileTree) (links : Nat) (way : Way) (names : List String) :
    Except AccessFault Way :=
  match names with
  | [] => .ok way
  | name :: rest =>
    if !(way.target root).isDirectory then .error .notDirectory
    else if name == ".." then follow root links (way.drop 1) rest
    else
      match (way.target root).child? name with
      | none => .error .missing
      | some (.link target) =>
        match links with
        | 0 => .error .tooManyLinks
        | links + 1 =>
          let p := FilePath.ofText target
          follow root links (if p.isAbsolute then [] else way) (p.names ++ rest)
      | some t => follow root links ((name, t) :: way) rest
  termination_by (links, names.length)

/-- The names of a path from the root on; a relative path starts at `here`. -/
def fromRoot (here path : FilePath) : List String := (here.join path).names

/-- The way to a path, links followed. -/
def lookup (root : FileTree) (here path : FilePath) : Except AccessFault Way :=
  follow root maxLinks [] (fromRoot here path)

/-- What stands at a path, links followed. -/
def at? (root : FileTree) (here path : FilePath) : Option FileTree :=
  match lookup root here path with
  | .ok way => some (way.target root)
  | .error _ => none

/-- The names on the way on from `names`, innermost first, links followed as
far as things exist; none if links lead nowhere. -/
def settle (root : FileTree) (links : Nat) (done : List (String × Option FileTree))
    (names : List String) : Option (List String) :=
  match names with
  | [] => some (done.reverse.map (·.1))
  | name :: rest =>
    if name == ".." then settle root links (done.drop 1) rest
    else
      let current := (done.head?.map (·.2)).getD (some root)
      match current.bind (·.child? name) with
      | some (.link target) =>
        match links with
        | 0 => none
        | links + 1 =>
          let p := FilePath.ofText target
          settle root links (if p.isAbsolute then [] else done) (p.names ++ rest)
      | t => settle root links ((name, t) :: done) rest
  termination_by (links, names.length)

/-- A path from the root on, without links and double points; what does not
exist stays as it is written. None if links lead in a circle. -/
def realPath (root : FileTree) (here path : FilePath) : Option FilePath :=
  (settle root maxLinks [] (fromRoot here path)).map fun names => ⟨"/", names⟩

/-- The entries with one put at its place in the order of names. -/
def putEntry (name : String) (t : FileTree) : List (String × FileTree) → List (String × FileTree)
  | [] => [(name, t)]
  | (n, u) :: rest =>
    if n == name then (name, t) :: rest
    else if name < n then (name, t) :: (n, u) :: rest
    else (n, u) :: putEntry name t rest

/-- The tree with `t` put at a place. Directories on the way are made where
there are none. -/
def insert (t : FileTree) : List String → FileTree → FileTree
  | [], _ => t
  | name :: rest, tree =>
    let below := (tree.child? name).getD (directory [])
    let entries := putEntry name (insert t rest below) tree.entries
    match tree with
    | sealed _ => sealed entries
    | _ => directory entries

end FileTree

end RouteDoc
