import RouteDoc.Analysis.Basic
import RouteDoc.Route.Path
import RouteDoc.Text.Plural

/-!
# Analyses from the shape of a route

* `templateAnalysis`: the documentation that a verb and a path alone give.
-/

namespace RouteDoc

open Text (singularize pluralize)

/-- The short text of a route. -/
def templateSummary (r : Route) : String :=
  let thing := resource r.path
  let one := singularize thing
  match r.method with
  | "GET" => if r.hasParameter then s!"Get {one}" else s!"List {pluralize thing}"
  | "POST" => s!"Create {one}"
  | "PUT" | "PATCH" => s!"Update {one}"
  | "DELETE" => s!"Delete {one}"
  | verb => s!"{verb} {thing}"

/-- The long text of a route without a comment. -/
def templateDescription (r : Route) : String :=
  let thing := resource r.path
  let one := singularize thing
  match r.method with
  | "GET" =>
    if r.hasParameter then s!"Retrieve a specific {one} by ID"
    else s!"Retrieve a list of {pluralize thing}"
  | "POST" => s!"Create a new {one}"
  | "PUT" => s!"Update an existing {one}"
  | "PATCH" => s!"Partially update an existing {one}"
  | "DELETE" => s!"Delete a {one}"
  | verb => s!"Perform {verb} operation on {thing}"

/-- A described text property. -/
def textProperty (description : String) : Json :=
  .obj [("type", .str "string"), ("description", .str description)]

/-- What a body is taken to hold. -/
def templateRequestSchema (r : Route) : Option Fields :=
  if bodyVerbs.contains r.method then
    some [("type", .str "object"),
      ("properties", .obj [("name", textProperty "Name field"), ("id", textProperty "Identifier")]),
      ("required", .strings ["name"])]
  else none

/-- What one item is taken to hold. -/
def itemSchema : Fields :=
  [("type", .str "object"),
    ("properties", .obj [("id", textProperty "Unique identifier"), ("name", textProperty "Name"),
      ("createdAt", .obj [("type", .str "string"), ("format", .str "date-time")])])]

/-- Whether a route reads a whole collection. -/
def isCollection (r : Route) : Bool := r.method == "GET" && !r.hasParameter

/-- What a response is taken to hold. -/
def templateResponseSchema (r : Route) : Fields :=
  if isCollection r then [("type", .str "array"), ("items", .obj itemSchema)] else itemSchema

/-- The status codes a route is taken to answer with. -/
def templateStatusCodes (r : Route) : List (String × String) :=
  let success :=
    if r.method == "POST" then ("201", "Created successfully")
    else if r.method == "DELETE" then ("204", "Deleted successfully")
    else ("200", "Success")
  [success, ("400", "Bad request")] ++ (if r.hasParameter then [("404", "Not found")] else []) ++
    [("500", "Internal server error")]

/-- The path parameters as documented. -/
def templateParameters (r : Route) : List Parameter :=
  r.parameters.map fun p =>
    { name := p.name, location := p.location, type := p.type, required := p.required,
      description := s!"{p.name} identifier" }

/-- Sample data. -/
def templateExamples (r : Route) : Examples :=
  let item : Json := .obj [("id", .str "1"), ("name", .str "Example item")]
  { request := if bodyVerbs.contains r.method then .obj [("name", .str "Example name")] else .obj []
    response := if isCollection r then .arr [item] else item }

/-- The description of a route: its comment, unless that is empty. -/
def describedBy (r : Route) : String :=
  match r.leadingComment with
  | some c => if c.isEmpty then templateDescription r else c
  | none => templateDescription r

/-- The analysis that follows from the verb and the path of a route. -/
def templateAnalysis (r : Route) : Analysis :=
  { summary := templateSummary r
    description := describedBy r
    tags := [tag r.path]
    parameters := templateParameters r
    requestSchema := templateRequestSchema r
    responseSchema := templateResponseSchema r
    statusCodes := templateStatusCodes r
    examples := templateExamples r }

end RouteDoc
