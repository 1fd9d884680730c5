import RouteDoc.Diagnostic
import RouteDoc.FileTree.Candidate
import RouteDoc.Route.Extract

/-!
# Routes of source texts and files

* `Extraction`, `extractFrom`: the routes of a text and what is reported;
* `extractFile`: the same for a file.
-/

namespace RouteDoc

/-- Routes found and what is reported about the search. -/
structure Extraction where
  routes : List Route := []
  diagnostics : List Diagnostic := []
  deriving Inhabited

/-- The dialects for an extension in any case. -/
def dialectsFor (extension : String) : List Source.Dialect :=
  Source.Dialect.order (Text.lower extension)

/-- The routes of a text. Without an extension that of the file name counts;
a text that no dialect accepts is reported. -/
def extractFrom (source : List Char) (file : String) (extension : Option String) : Extraction :=
  let extension :=
    match extension with
    | some e => e
    | none => (FilePath.ofText file).extension
  match Source.parse source (dialectsFor extension) with
  | some (_, tree) => { routes := extractRoutes source file tree }
  | none => { diagnostics := [.unparsable file] }

/-- The routes of a file. What cannot be read, or is too large, is reported. -/
def extractFile (tree : FileTree) (here : FilePath) (o : ScanOptions) (path : FilePath) :
    Extraction :=
  match tree.lookup here path with
  | .error fault => { diagnostics := [.unreadableFile path.text (fault.report path.text)] }
  | .ok way =>
    let size := (way.target tree).size
    if o.sizeLimit < size then { diagnostics := [.oversizedFile path.text size o.sizeLimit] }
    else
      match readText? tree here path o.sizeLimit with
      | none => { diagnostics := [.unreadableFile path.text "could not read file"] }
      | some source =>
        extractFrom source ((tree.realPath here path).getD path).text (some path.extension)

end RouteDoc
