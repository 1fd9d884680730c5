import RouteDoc.Analysis.Basic
import RouteDoc.OpenApi.Schemas

/-!
# Operations

An operation is a verb at a path, with what is documented about it.

* `Operation`: the parts of an operation;
* `operationParameters`, `operationResponses`, `describeOperation`: the parts
  that follow from a documented route.
-/

namespace RouteDoc

namespace OpenApi

/-- A body of a request or a response: the name of its schema and a sample. -/
structure Body where
  schema : String
  sample : Option Json := none
  deriving Inhabited

/-- A response with its meaning. -/
structure Response where
  description : String
  body : Option Body := none
  deriving Inhabited

/-- A verb at a path. -/
structure Operation where
  id : String
  summary : String
  description : String
  tags : List String
  parameters : List Parameter
  body : Option Body
  responses : Entries Response
  middleware : List String
  source : Option String
  deriving Inhabited

/-- The parameters without those whose name and location were seen before. -/
def distinctParameters (seen : List (String × String)) : List Parameter → List Parameter
  | [] => []
  | p :: ps =>
    if seen.contains (p.name, p.location) then distinctParameters seen ps
    else p :: distinctParameters ((p.name, p.location) :: seen) ps

/-- A parameter at its final location: one named in the path stands there and
is required. -/
def placeParameter (pathNames : List String) (p : Parameter) : Parameter :=
  let location :=
    if pathNames.contains p.name then "path" else if p.location.isEmpty then "query" else p.location
  { p with
    location
    required := location == "path" || p.required
    type := if p.type.isEmpty then "string" else p.type }

/-- The parameters with one more for each path parameter that is missing. -/
def addPathParameters (ps : List Parameter) : List PathParameter → List Parameter
  | [] => ps
  | p :: more =>
    if ps.any fun q => q.name == p.name && q.location == "path" then addPathParameters ps more
    else addPathParameters (ps ++ [{ name := p.name, type := p.type }]) more

/-- The parameters of an operation. -/
def operationParameters (r : Route) (a : Analysis) : List Parameter :=
  let pathNames := r.parameters.map (·.name)
  addPathParameters ((distinctParameters [] a.parameters).map (placeParameter pathNames)) r.parameters

/-- A sample, unless it is empty. -/
def usableSample : Json → Option Json
  | .null | .obj [] | .arr [] => none
  | v => some v

/-- A response to a status code; those of success other than the one without a
body show the schema. -/
def response (a : Analysis) (schema : Option String) (code text : String) : Response :=
  { description := text
    body :=
      if code.toList.head? == some '2' && code != "204" then
        schema.map fun name => { schema := name, sample := usableSample a.examples.response }
      else none }

/-- The responses of an operation, in the order of their codes. -/
def operationResponses (a : Analysis) (schema : Option String) : Entries Response :=
  match a.statusCodes.mergeSort fun x y => x.1 ≤ y.1 with
  | [] => [("200", { description := "Success" })]
  | codes => codes.map fun c => (c.1, response a schema c.1 c.2)

/-- Where a route was declared. -/
def sourceOf (r : Route) : Option String :=
  if r.sourceFile.isEmpty then none
  else if r.line == 0 then some r.sourceFile
  else some (r.sourceFile ++ ":" ++ toString r.line)

/-- The name of a schema, if it is not empty. -/
def referNonempty (s : Schemas) (path : String) (schema : Fields) (suffix : String) :
    Option String × Schemas :=
  if schema.isEmpty then (none, s)
  else
    let (name, s) := s.refer path schema suffix
    (some name, s)

/-- The operation that documents a route under a verb. -/
def describeOperation (s : Schemas) (id verb : String) (d : DocumentedRoute) :
    Operation × Schemas :=
  let a := d.analysis
  let (responseName, s) := referNonempty s d.route.path a.responseSchema "Response"
  let (requestName, s) :=
    if bodyVerbs.contains verb then
      referNonempty s d.route.path (a.requestSchema.getD []) "Request"
    else (none, s)
  ({ id
     summary := a.summary
     description := a.description
     tags := a.tags
     parameters := operationParameters d.route a
     body := requestName.map fun name => { schema := name, sample := usableSample a.examples.request }
     responses := operationResponses a responseName
     middleware := d.route.middleware
     source := sourceOf d.route }, s)

end OpenApi

end RouteDoc
