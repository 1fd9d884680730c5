import RouteDoc.Number.Binary64
import RouteDoc.Text.Pattern

/-!
# Signatures of frameworks

A framework is recognised by the way it is loaded and by the way routes are
declared with it.

* `Signature`, `Registry`: what is looked for, and the known frameworks;
* `builtin`: the frameworks known from the start.
-/

namespace RouteDoc.Framework

open Number (Binary64)
open Text (Pattern)

/-- What a framework is recognised by, and how much each sign counts. -/
structure Signature where
  id : String
  imports : List Pattern
  routes : List Pattern
  importWeight : Binary64 := .ofDecimal false 8 (-1)
  routeWeight : Binary64 := .ofDecimal false 6 (-1)
  deriving Inhabited

/-- The known frameworks, each under its own name. -/
abbrev Registry := List Signature

namespace Registry

/-- The names of the known frameworks. -/
def ids (r : Registry) : List String := r.map (·.id)

/-- The framework of a name. -/
def get? (r : Registry) (id : String) : Option Signature := r.find? (·.id == id)

/-- The registry with a framework in the place of the one of the same name, or
at the end. -/
def put : Registry → Signature → Registry
  | [], s => [s]
  | t :: r, s => if t.id == s.id then s :: r else t :: put r s

end Registry

open Text.Pattern

/-- A quotation mark. -/
def quote : Pattern := oneOf "'\"`"

/-- Loading a module by a call. -/
def required (module : Pattern) : Pattern :=
  "require" ++ blanks ++ "(" ++ blanks ++ quote ++ module ++ quote ++ blanks ++ ")"

/-- Loading a module by a declaration. -/
def imported (module : Pattern) : Pattern :=
  "import" ++ restOfLine ++ "from" ++ someBlanks ++ quote ++ module ++ quote

/-- A call of a member of some object. -/
def memberCall (member : String) : Pattern := "." ++ literal member ++ blanks ++ "("

/-- A call of one of several members of a named object. -/
def objectCall (object : String) (members : List String) : Pattern :=
  literal object ++ "." ++ any (members.map literal) ++ blanks ++ "("

/-- The members that declare routes for a single verb. -/
def verbMembers : List String := ["get", "post", "put", "patch", "delete"]

/-- The frameworks known from the start. -/
def builtin : Registry :=
  [{ id := "express"
     imports := [required "express", imported "express",
       "import" ++ someBlanks ++ "express" ++ someBlanks ++ "from"]
     routes := (verbMembers ++ ["all", "use"]).map memberCall ++
       [objectCall "app" (verbMembers ++ ["all", "use"]),
         objectCall "router" (verbMembers ++ ["all", "use"])] },
   { id := "fastify"
     imports := [required "fastify", imported "fastify"]
     routes := verbMembers.map memberCall ++
       [objectCall "fastify" verbMembers, memberCall "register"]
     importWeight := .ofDecimal false 9 (-1)
     routeWeight := .ofDecimal false 7 (-1) },
   { id := "koa"
     imports := [required "koa", required (optional "@" ++ "koa/router"), imported "koa",
       imported (optional "@" ++ "koa/router")]
     routes := verbMembers.map memberCall ++ [objectCall "router" verbMembers]
     importWeight := .ofDecimal false 9 (-1) }]

end RouteDoc.Framework
