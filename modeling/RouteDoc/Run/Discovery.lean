import RouteDoc.FileTree.Walk
import RouteDoc.Framework.Classify
import RouteDoc.Route.SourceFile

/-!
# Discovery

From a directory to its routes: the files found are classified, and those that
seem to declare routes are read for them.

* `RunError`: why a run does not start;
* `classifyFile`: the verdict on a file;
* `Discovery`, `discover`: what is found;
* `skippedCounts`: how many files were skipped, by reason.
-/

namespace RouteDoc

open Framework (Classification Registry)

/-- Why a run does not start. -/
inductive RunError
  | missing (path : String)
  | notDirectory (path : String)
  | unknownFrameworks (names : List String)
  | noKey
  deriving DecidableEq, Repr

/-- The wording of an error. -/
def RunError.message : RunError → String
  | missing path => s!"Repo path does not exist: {path}"
  | notDirectory path => s!"Repo path is not a directory: {path}"
  | unknownFrameworks names => "Unknown framework(s): " ++ String.intercalate ", " names
  | noKey => "GROQ_API_KEY is required for AI analysis (or disable AI)"

/-- The directory a run starts in, links followed, unless it is none or the
options name a framework that is not registered. -/
def startOf (tree : FileTree) (here : FilePath) (registry : Registry) (o : ScanOptions)
    (path : FilePath) : Except RunError FilePath :=
  match tree.at? here path with
  | none => .error (.missing path.text)
  | some t =>
    if !t.isDirectory then .error (.notDirectory path.text)
    else
      match o.frameworks.filter (!registry.ids.contains ·) with
      | [] => .ok ((tree.realPath here path).getD path)
      | unknown => .error (.unknownFrameworks unknown)

/-- The verdict on a file and the text that was read for it. -/
def classifyFile (tree : FileTree) (here : FilePath) (registry : Registry) (o : ScanOptions)
    (path : FilePath) : Classification × Option (List Char) :=
  match readText? tree here path o.sizeLimit with
  | none => ({ path := path.text, reason := some .unreadable }, none)
  | some content => (Framework.classify registry o.frameworks path.text content, some content)

/-- What is found in a directory. -/
structure Discovery where
  files : Nat
  candidates : List String
  classifications : List Classification
  routes : List Route
  diagnostics : List Diagnostic
  frameworks : List String
  deriving Inhabited

/-- What one file contributes. -/
structure Finding where
  classification : Classification
  candidate : Option String := none
  extraction : Extraction := {}
  deriving Inhabited

/-- The framework of a file that declares a route. -/
def Finding.framework? (f : Finding) : Option String :=
  if f.extraction.routes.isEmpty then none else f.classification.framework

/-- What a file below `root` contributes: its classification, and its routes if
it seems to declare any. -/
def inspect (tree : FileTree) (registry : Registry) (o : ScanOptions) (root : FilePath)
    (c : Candidate) : Finding :=
  let path := FilePath.ofText c.path
  match classifyFile tree root registry o path with
  | (classification, some content) =>
    if classification.hasRoutes then
      let file := path.wayFrom root
      { classification, candidate := some file
        extraction := extractFrom content file (some c.extension) }
    else { classification }
  | (classification, none) => { classification }

/-- What a walk and the files it found amount to. -/
def Discovery.ofFindings (w : WalkResult) (findings : List Finding) : Discovery :=
  { files := w.files.length
    candidates := findings.filterMap (·.candidate)
    classifications := findings.map (·.classification)
    routes := findings.flatMap (·.extraction.routes)
    diagnostics := w.diagnostics ++ findings.flatMap (·.extraction.diagnostics)
    frameworks := findings.filterMap Finding.framework? }

/-- What is found in and below a directory. -/
def discover (tree : FileTree) (here : FilePath) (registry : Registry) (o : ScanOptions)
    (path : FilePath) : Except RunError Discovery :=
  (startOf tree here registry o path).map fun root =>
    let w := walk tree o root
    Discovery.ofFindings w (w.files.map (inspect tree registry o root))

/-- The counts of names, in the order of the names. -/
def countNames (names : List String) : Entries Nat :=
  let counts := names.foldl (fun e n => Entries.put e n ((Entries.get? e n).getD 0 + 1)) []
  counts.mergeSort fun a b => a.1 ≤ b.1

/-- Why a file was not read for routes. -/
def skipReason? (c : Classification) : Option String :=
  if c.hasRoutes then none else c.reason.map (·.name)

/-- The code of a report on a directory or file that was left out. -/
def skipCode? (d : Diagnostic) : Option String :=
  if (d.stage == "walk" || d.stage == "extract") && d.code != "max-files" then some d.code
  else none

/-- How many files were skipped, by reason. -/
def skippedCounts (classifications : List Classification) (diagnostics : List Diagnostic) :
    Entries Nat :=
  countNames (classifications.filterMap skipReason? ++ diagnostics.filterMap skipCode?)

end RouteDoc
