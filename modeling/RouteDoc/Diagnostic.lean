import RouteDoc.Route.Basic

/-!
# Diagnostics

What a run reports instead of failing. A diagnostic is a cause; its stage,
code, wording and level follow from it.
-/

namespace RouteDoc

/-- Why something was left out or done otherwise. -/
inductive Diagnostic
  | unreadableDirectory (path reason : String)
  | fileLimit (root : String) (limit : Int)
  | unparsable (file : String)
  | unreadableFile (path reason : String)
  | oversizedFile (path : String) (size : Nat) (limit : Int)
  | serviceFallback (route : Route) (reason : String)
  | synthesizerFault (route : Route) (reason : String)
  | cancelled (route : Route)
  | duplicateOperation (path : String) (earlier later : Route)
  deriving DecidableEq, Repr, Inhabited

namespace Diagnostic

/-- The stage of a run that reports it. -/
def stage : Diagnostic → String
  | unreadableDirectory .. | fileLimit .. => "walk"
  | unparsable .. | unreadableFile .. | oversizedFile .. => "extract"
  | serviceFallback .. | synthesizerFault .. | cancelled .. => "synthesize"
  | duplicateOperation .. => "assemble"

/-- The code of its cause. -/
def code : Diagnostic → String
  | unreadableDirectory .. => "unreadable-dir"
  | fileLimit .. => "max-files"
  | unparsable .. => "parse-error"
  | unreadableFile .. => "unreadable"
  | oversizedFile .. => "oversized"
  | serviceFallback .. => "generative-fallback"
  | synthesizerFault .. => "synthesizer-error"
  | cancelled .. => "cancelled"
  | duplicateOperation .. => "duplicate-operation"

/-- The place of a route in the source. -/
def place (r : Route) : String := s!"{r.sourceFile}:{r.line}"

/-- Its wording. -/
def message : Diagnostic → String
  | unreadableDirectory _ reason => reason
  | fileLimit _ limit => s!"stopped after {limit} files"
  | unparsable _ => "syntax error in every supported dialect"
  | unreadableFile _ reason => reason
  | oversizedFile _ size limit => s!"{size} bytes exceeds the {limit} byte limit"
  | serviceFallback r reason | synthesizerFault r reason => s!"{r.label}: {reason}"
  | cancelled r => s!"{r.label}: run stopped before analysis"
  | duplicateOperation path earlier later =>
    s!"{later.method} {path} declared more than once ({place earlier} replaced by {place later})"

/-- A path, unless it is empty. -/
def someUnlessEmpty (path : String) : Option String :=
  if path.isEmpty then none else some path

/-- The file or directory it is about. -/
def path : Diagnostic → Option String
  | unreadableDirectory path _ | fileLimit path _ | unreadableFile path _ | oversizedFile path .. =>
    some path
  | unparsable file => someUnlessEmpty file
  | serviceFallback r _ | synthesizerFault r _ | cancelled r => someUnlessEmpty r.sourceFile
  | duplicateOperation _ _ later => someUnlessEmpty later.sourceFile

/-- How grave it is. -/
def level : Diagnostic → String
  | cancelled .. => "info"
  | _ => "warning"

end Diagnostic

end RouteDoc
