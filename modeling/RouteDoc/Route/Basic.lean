/-!
# Routes

A route is one declaration of an endpoint: a verb, a path, and what the source
says about its handler.

* `PathParameter`, `Route`: the records;
* `verbs`, `bodyVerbs`: the known verbs, and those that carry a body.
-/

namespace RouteDoc

/-- A named part of a path. -/
structure PathParameter where
  name : String
  location : String := "path"
  type : String := "string"
  required : Bool := true
  deriving DecidableEq, Repr, Inhabited

/-- A declared endpoint. The path is written as in the source; `line` counts
from one, and is zero where no line is known. -/
structure Route where
  method : String
  path : String
  parameters : List PathParameter := []
  middleware : List String := []
  handlerSource : Option String := none
  handlerName : Option String := none
  handlerParams : List String := []
  isAsync : Bool := false
  sourceFile : String := ""
  leadingComment : Option String := none
  line : Nat := 0
  deriving DecidableEq, Repr, Inhabited

/-- The verbs a route can be declared with; the last stands for several. -/
def verbs : List String := ["GET", "POST", "PUT", "PATCH", "DELETE", "HEAD", "OPTIONS", "ALL"]

/-- The verbs whose requests carry a body. -/
def bodyVerbs : List String := ["POST", "PUT", "PATCH"]

/-- Whether the path has parameters. -/
def Route.hasParameter (r : Route) : Bool := !r.parameters.isEmpty

/-- The verb and path of a route. -/
def Route.label (r : Route) : String := r.method ++ " " ++ r.path

end RouteDoc
