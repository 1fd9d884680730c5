import RouteDoc.Diagnostic
import RouteDoc.OpenApi.Operation

/-!
# Declarations by path

Routes are grouped by their path in normal form. Of several declarations of a
verb at a path the last counts. The verb for several is one declaration for
each of those that are not declared on their own.

* `declaredAt`: what counts at a path;
* `replaced`: the declarations that do not count.
-/

namespace RouteDoc.OpenApi

/-- A route under its path in normal form. -/
abbrev Placed := String × DocumentedRoute

/-- The routes under their paths in normal form. -/
def place (ds : List DocumentedRoute) : List Placed :=
  ds.map fun d => (normalizePath d.route.path, d)

/-- The verb that stands for several. -/
def anyVerb : String := "ALL"

/-- The verbs that it stands for. -/
def anyVerbStandsFor : List String := ["GET", "POST", "PUT", "PATCH", "DELETE"]

/-- The routes declared for single verbs, the last one for each. -/
def declaredVerbs (ds : List DocumentedRoute) : Entries DocumentedRoute :=
  Entries.ofList
    ((ds.filter (·.route.method != anyVerb)).map fun d => (d.route.method, d))

/-- The last route declared for several verbs. -/
def declaredForAny (ds : List DocumentedRoute) : Option DocumentedRoute :=
  (ds.filter (·.route.method == anyVerb)).getLast?

/-- What counts for each verb, given all declarations at a path. -/
def declared (ds : List DocumentedRoute) : Entries DocumentedRoute :=
  let single := declaredVerbs ds
  match declaredForAny ds with
  | none => single
  | some d => single ++ (anyVerbStandsFor.filter (!single.has ·)).map fun verb => (verb, d)

/-- What counts at a path. -/
def declaredAt (placed : List Placed) (path : String) : Entries DocumentedRoute :=
  declared ((placed.filter (·.1 == path)).map (·.2))

/-- Texts in order, each once. -/
def sortedDistinct (xs : List String) : List String := (xs.mergeSort fun a b => a ≤ b).eraseReps

/-- The distinct paths in order. -/
def pathsOf (placed : List Placed) : List String := sortedDistinct (placed.map (·.1))

/-- The reports of declarations that a later one of the same path and verb
replaces; `earlier` are those passed, the nearest first. -/
def replacedAfter (earlier : List Placed) : List Placed → List Diagnostic
  | [] => []
  | (path, d) :: rest =>
    let report :=
      if d.route.method == anyVerb then []
      else
        match earlier.find? fun e => e.1 == path && e.2.route.method == d.route.method with
        | some e => [.duplicateOperation path e.2.route d.route]
        | none => []
    report ++ replacedAfter ((path, d) :: earlier) rest

/-- The reports of declarations that a later one replaces. -/
def replaced (placed : List Placed) : List Diagnostic := replacedAfter [] placed

/-- The verbs in the order in which they stand at a path. -/
def verbOrder : List String := ["get", "put", "post", "delete", "options", "head", "patch"]

/-- The place of a verb in that order. -/
def verbRank? (verb : String) : Option Nat := verbOrder.idxOf? (Text.lower verb)

/-- What counts at a path in the order of the verbs; none if one of the verbs
has no place in it. -/
def inVerbOrder? (ops : Entries DocumentedRoute) : Option (Entries DocumentedRoute) :=
  if ops.all fun op => (verbRank? op.1).isSome then
    some (ops.mergeSort fun a b => (verbRank? a.1).getD 0 ≤ (verbRank? b.1).getD 0)
  else none

end RouteDoc.OpenApi
