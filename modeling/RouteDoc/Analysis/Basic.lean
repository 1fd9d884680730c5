import RouteDoc.Record.Check
import RouteDoc.Route.Basic

/-!
# Analyses

What is documented about a route.

* `Parameter`, `Examples`, `Analysis`: the records;
* `Analysis.check`: an analysis from a JSON object;
* `Strategy`: where an analysis came from;
* `DocumentedRoute`: a route with its analysis.
-/

namespace RouteDoc

open Record

/-- A documented parameter. -/
structure Parameter where
  name : String
  location : String := "path"
  type : String := "string"
  required : Bool := true
  description : String := ""
  deriving DecidableEq, Repr, Inhabited

/-- A sample request and response. -/
structure Examples where
  request : Json := .obj []
  response : Json := .obj []
  deriving Inhabited

/-- The documentation of a route. Schemas are JSON objects, status codes come
with their meaning. -/
structure Analysis where
  summary : String
  description : String
  tags : List String := []
  parameters : List Parameter := []
  requestSchema : Option Fields := none
  responseSchema : Fields := [("type", .str "object")]
  statusCodes : Entries String := [("200", "Success")]
  examples : Examples := {}
  deriving Inhabited

/-- Where an analysis came from: the shape of the route, or the service. -/
inductive Strategy
  | template
  | generative
  deriving DecidableEq, Repr, Inhabited

/-- The name under which a strategy is reported. -/
def Strategy.name : Strategy → String
  | template => "template"
  | generative => "generative"

/-- A route with its analysis and where that came from. -/
structure DocumentedRoute where
  route : Route
  analysis : Analysis
  strategy : Strategy := .template
  deriving Inhabited

/-- A parameter from a JSON object. The location goes by two names. -/
def Parameter.check : Json → Checked Parameter
  | .obj fields =>
    Parameter.mk <$> requiredField fields "name" readText
      <*> fieldNamed fields ["in", "location"] readText "path"
      <*> field fields "type" readText "string"
      <*> field fields "required" readFlag true
      <*> field fields "description" readText ""
  | _ => .fail (.record "Parameter")

/-- Samples from a JSON object. -/
def Examples.check : Json → Checked Examples
  | .obj fields =>
    Examples.mk <$> field fields "request" readAny (.obj [])
      <*> field fields "response" readAny (.obj [])
  | _ => .fail (.record "Examples")

/-- An analysis from a JSON object. Fields of two words go by two names. -/
def Analysis.check : Json → Checked Analysis
  | .obj fields =>
    Analysis.mk <$> requiredField fields "summary" readText
      <*> requiredField fields "description" readText
      <*> field fields "tags" (readList readText) []
      <*> field fields "parameters" (readList Parameter.check) []
      <*> fieldNamed fields ["requestSchema", "request_schema"]
        (readOptional (readDictionary readAny)) none
      <*> fieldNamed fields ["responseSchema", "response_schema"] (readDictionary readAny)
        [("type", .str "object")]
      <*> fieldNamed fields ["statusCodes", "status_codes"] (readDictionary readText)
        [("200", "Success")]
      <*> field fields "examples" Examples.check {}
  | _ => .fail (.record "Analysis")

end RouteDoc
