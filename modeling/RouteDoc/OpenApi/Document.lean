import RouteDoc.OpenApi.Paths
import RouteDoc.Settings

/-!
# Documents

* `Document`, `Summary`: a document and its figures;
* `assemble`: the document of some routes;
* `Document.toJson`: a document as a JSON object.
-/

namespace RouteDoc.OpenApi

/-- The figures of a document. -/
structure Summary where
  routes : Nat
  frameworks : List String
  methods : Entries Nat
  categories : Entries Nat
  deriving Inhabited

/-- What is documented, by path and verb. -/
structure Document where
  info : DocumentInfo
  paths : Entries (Entries Operation)
  schemas : Entries Fields
  tags : List String
  summary : Summary
  deriving Inhabited

/-- Why no document can be assembled. -/
inductive AssemblyError
  | unknownVerb
  deriving DecidableEq, Repr

/-- The wording of an error. -/
def AssemblyError.message : AssemblyError → String
  | unknownVerb => "tuple.index(x): x not in tuple"

/-- What has been used while operations are described one after another:
schemas, and identifiers before numbers were put after them. -/
structure Progress where
  schemas : Schemas := {}
  ids : List String := []

/-- An identifier with the number of its uses, the first use aside. -/
def numbered (used : List String) (id : String) : String :=
  match used.count id with
  | 0 => id
  | n + 1 => id ++ "_" ++ toString (n + 2)

/-- The operations at a path, given what counts there. -/
def describeVerbs (path : String) : Progress → Entries DocumentedRoute → Entries Operation →
    Entries Operation × Progress
  | p, [], done => (done, p)
  | p, (verb, d) :: rest, done =>
    let id := operationId verb path
    let (operation, schemas) := describeOperation p.schemas (numbered p.ids id) verb d
    describeVerbs path ⟨schemas, id :: p.ids⟩ rest (done.put (Text.lower verb) operation)

/-- The operations at all paths, given what counts at each. -/
def describePaths : Progress → List (String × Entries DocumentedRoute) →
    Entries (Entries Operation) × Progress
  | p, [] => ([], p)
  | p, (path, ops) :: rest =>
    let (item, p) := describeVerbs path p ops []
    let (items, p) := describePaths p rest
    (if item.isEmpty then items else (path, item) :: items, p)

/-- What counts at each path in the order of the verbs. -/
def orderedPaths (placed : List Placed) :
    Except AssemblyError (List (String × Entries DocumentedRoute)) :=
  (pathsOf placed).mapM fun path =>
    match inVerbOrder? (declaredAt placed path) with
    | some ops => .ok (path, ops)
    | none => .error .unknownVerb

/-- How often each text occurs, in order. -/
def tally (xs : List String) : Entries Nat := (sortedDistinct xs).map fun x => (x, xs.count x)

/-- The first tag of an analysis, or the general one. -/
def category (a : Analysis) : String := a.tags.head?.getD "API"

/-- The figures of some routes. -/
def summarize (ds : List DocumentedRoute) (frameworks : List String) : Summary :=
  { routes := ds.length
    frameworks := sortedDistinct frameworks
    methods := tally (ds.map (·.route.method))
    categories := tally (ds.map fun d => category d.analysis) }

/-- The document of some routes, and what is reported. -/
def assemble (info : DocumentInfo) (frameworks : List String) (ds : List DocumentedRoute) :
    Except AssemblyError (Document × List Diagnostic) := do
  let placed := place ds
  let (paths, progress) := describePaths {} (← orderedPaths placed)
  return ({ info
            paths
            schemas := progress.schemas.byName
            tags := sortedDistinct (ds.flatMap (·.analysis.tags))
            summary := summarize ds frameworks }, replaced placed)

/-- What is said about a tag. -/
def tagDescription (tag : String) : String :=
  match tag with
  | "Users" | "User" => "User management operations"
  | "Auth" | "Login" => "Authentication and authorization"
  | "Products" => "Product catalog operations"
  | "Orders" => "Order management operations"
  | "Payments" => "Payment processing operations"
  | "Admin" => "Administrative operations"
  | "Health" => "Service health and status checks"
  | "API" => "General API operations"
  | tag => tag ++ " operations"

/-- A field, if there is something to put into it. -/
def optionalField (name : String) (v : Option Json) : Fields :=
  match v with
  | some v => [(name, v)]
  | none => []

/-- A text, unless it is empty. -/
def nonemptyText (s : String) : Option Json := if s.isEmpty then none else some (.str s)

/-- A list of texts, unless it is empty. -/
def nonemptyTexts (xs : List String) : Option Json :=
  if xs.isEmpty then none else some (.strings xs)

def parameterJson (p : Parameter) : Json :=
  .obj ([("name", .str p.name), ("in", .str p.location), ("required", .bool p.required),
    ("schema", .obj [("type", .str p.type)])] ++
    optionalField "description" (nonemptyText p.description))

/-- The content of a body. -/
def Body.contentJson (b : Body) : Json :=
  .obj [("application/json", .obj
    (("schema", .obj [("$ref", .str ("#/components/schemas/" ++ b.schema))]) ::
      optionalField "example" b.sample))]

def Response.toJson (r : Response) : Json :=
  .obj (("description", .str r.description) ::
    optionalField "content" (r.body.map Body.contentJson))

/-- The body of a request. -/
def Body.requestJson (b : Body) : Json :=
  .obj [("description", .str "Request payload"), ("required", .bool true),
    ("content", b.contentJson)]

def Operation.toJson (o : Operation) : Json :=
  .obj ([("operationId", .str o.id), ("summary", .str o.summary),
      ("description", .str o.description), ("tags", .strings o.tags),
      ("parameters", .arr (o.parameters.map parameterJson))] ++
    optionalField "requestBody" (o.body.map Body.requestJson) ++
    [("responses", .obj (o.responses.map fun r => (r.1, r.2.toJson)))] ++
    optionalField "x-middleware" (nonemptyTexts o.middleware) ++
    optionalField "x-source" (o.source.map Json.str))

/-- Figures as an object. -/
def countsJson (counts : Entries Nat) : Json := .obj (counts.map fun c => (c.1, .int c.2))

/-- The document as a JSON object. -/
def Document.toJson (d : Document) : Json :=
  .obj [("openapi", .str "3.0.3"),
    ("info", .obj [("title", .str d.info.title), ("version", .str d.info.version),
      ("description", .str d.info.description)]),
    ("servers", .arr [.obj [("url", .str d.info.baseUrl),
      ("description", .str "Development server")]]),
    ("paths", .obj (d.paths.map fun p => (p.1, .obj (p.2.map fun o => (o.1, o.2.toJson))))),
    ("components", .obj [("schemas", .obj (d.schemas.map fun s => (s.1, .obj s.2)))]),
    ("tags", .arr (d.tags.map fun t =>
      .obj [("name", .str t), ("description", .str (tagDescription t))])),
    ("x-totalRoutes", .int d.summary.routes),
    ("x-frameworksDetected", .strings d.summary.frameworks),
    ("x-httpMethodCounts", countsJson d.summary.methods),
    ("x-categoryCounts", countsJson d.summary.categories)]

end RouteDoc.OpenApi
