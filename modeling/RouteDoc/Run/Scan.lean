import RouteDoc.OpenApi.Document
import RouteDoc.Run.Discovery
import RouteDoc.Service.Batch

/-!
# Scans

From a directory to its document: routes are found, analysed and assembled.

* `ScanRequest`: what is asked for;
* `ScanReport`, `scan`: what a scan comes to.
-/

namespace RouteDoc

open Framework (Registry)
open Service (BatchResult Pace Script Stop Synthesizer World)

/-- Why a scan fails. -/
inductive ScanError
  | run (e : RunError)
  | batch (e : Service.BatchError)
  | assembly (e : OpenApi.AssemblyError)
  deriving DecidableEq, Repr

/-- The wording of an error. -/
def ScanError.message : ScanError → String
  | run e => e.message
  | batch e => e.message
  | assembly e => e.message

/-- What a scan is asked for. Without `replies` the service is reached over the
network, which takes a key. -/
structure ScanRequest where
  options : ScanOptions := {}
  info : DocumentInfo := {}
  settings : ServiceSettings := {}
  replies : Option Script := none
  stop : Stop := .never
  deriving Inhabited

/-- The replies where there is no network. -/
def unreachable : Script := [("*", [{ answer := .failure "Connection error." }])]

/-- Whether the service may be asked. -/
def ScanRequest.isPermitted (r : ScanRequest) : Bool :=
  !r.options.useService || r.replies.isSome || r.settings.apiKey.any (!·.isEmpty)

/-- What a scan comes to. -/
structure ScanReport where
  found : Discovery
  results : List DocumentedRoute
  document : OpenApi.Document
  /-- What assembling the document reports. -/
  replaced : List Diagnostic
  diagnostics : List Diagnostic
  world : World

/-- The frameworks of files that declare routes. -/
def ScanReport.frameworks (r : ScanReport) : List String := r.document.summary.frameworks

/-- How many files were skipped, by reason. -/
def ScanReport.skipped (r : ScanReport) : Entries Nat :=
  skippedCounts r.found.classifications r.diagnostics

/-- The analyses of the routes found, by the service if it is to be asked. -/
def analyse (r : ScanRequest) (routes : List Route) :
    Except Service.BatchError (BatchResult × World) :=
  let world : World := { script := r.replies.getD unreachable }
  if r.options.useService && !routes.isEmpty then
    Service.synthesizeRoutes (.ofSettings r.settings) (.generative (.ofSettings r.settings))
      r.stop.holds routes world
  else .ok (Service.templateResults routes, world)

/-- The document of what was found, and all that is reported. -/
def ScanReport.ofDiscovery (r : ScanRequest) (found : Discovery) : Except ScanError ScanReport := do
  let (batch, world) ← (analyse r found.routes).mapError .batch
  let (document, replaced) ←
    (OpenApi.assemble r.info found.frameworks batch.results).mapError .assembly
  return { found, document, replaced, world
           results := batch.results
           diagnostics := found.diagnostics ++ batch.diagnostics ++ replaced }

/-- The document of a directory. -/
def scan (tree : FileTree) (here : FilePath) (registry : Registry) (r : ScanRequest)
    (path : FilePath) : Except ScanError ScanReport := do
  let _ ← (startOf tree here registry r.options path).mapError .run
  if !r.isPermitted then throw (.run .noKey)
  ScanReport.ofDiscovery r (← (discover tree here registry r.options path).mapError .run)

end RouteDoc
