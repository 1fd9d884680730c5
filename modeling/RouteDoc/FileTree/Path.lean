import RouteDoc.Text.Blank
import RouteDoc.Text.Case

/-!
# File paths as text

A path is a root, which is empty for a relative path, and names.

* `FilePath.ofText`, `FilePath.text`: reading and writing; empty names and
  single points disappear;
* `FilePath.name`, `FilePath.extension`: the last name and its extension;
* `FilePath.relativeTo?`: a path from one of its ancestors on;
* `FilePath.wayFrom`: the way from one absolute path to another.
-/

namespace RouteDoc

/-- A path in a file system. -/
structure FilePath where
  root : String
  names : List String
  deriving DecidableEq, Repr, Inhabited

namespace FilePath

/-- The path a text stands for. Exactly two slashes at the start are a root of
their own. -/
def ofText (s : String) : FilePath :=
  let cs := s.toList
  let root :=
    match cs with
    | '/' :: '/' :: '/' :: _ => "/"
    | '/' :: '/' :: _ => "//"
    | '/' :: _ => "/"
    | _ => ""
  let names := (Text.splitOnP (· == '/') cs).filter fun n => !n.isEmpty && n != ['.']
  ⟨root, names.map String.ofList⟩

/-- The names with slashes between them, after the root. -/
def text (p : FilePath) : String :=
  if p.root.isEmpty && p.names.isEmpty then "."
  else p.root ++ String.intercalate "/" p.names

/-- Whether a path starts at a root. -/
def isAbsolute (p : FilePath) : Bool := !p.root.isEmpty

/-- The last name. -/
def name (p : FilePath) : String := p.names.getLast?.getD ""

/-- The extension of a name: what follows and includes its last point, unless
the point is the first or the last character. -/
def extensionOf (name : String) : String :=
  let cs := name.toList
  let tail := (cs.reverse.takeWhile (· != '.')).reverse
  if tail.length + 1 < cs.length && !tail.isEmpty then String.ofList ('.' :: tail) else ""

/-- The extension of the last name. -/
def extension (p : FilePath) : String := extensionOf p.name

/-- `q` below `p`; an absolute path stays as it is. -/
def join (p q : FilePath) : FilePath :=
  if q.isAbsolute then q else ⟨p.root, p.names ++ q.names⟩

/-- The path from `ancestor` on, if that is one. -/
def relativeTo? (p ancestor : FilePath) : Option FilePath :=
  if p.root == ancestor.root && ancestor.names.isPrefixOf p.names then
    some ⟨"", p.names.drop ancestor.names.length⟩
  else none

/-- The names left when those that two lists share at the start are dropped. -/
def apart : List String → List String → List String × List String
  | a :: as, b :: bs => if a == b then apart as bs else (a :: as, b :: bs)
  | as, bs => (as, bs)

/-- The way from `start` to an absolute path, up first and then down. -/
def wayFrom (p start : FilePath) : String :=
  let (down, up) := apart p.names start.names
  (FilePath.mk "" (up.map (fun _ => "..") ++ down)).text

end FilePath

end RouteDoc
