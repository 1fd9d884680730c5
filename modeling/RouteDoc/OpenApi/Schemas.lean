import RouteDoc.Json.Writer
import RouteDoc.Route.Path
import RouteDoc.Text.Plural

/-!
# Shared schemas

Schemas of the same structure are kept once, under the name they were given
first.

* `Schemas`: the schemas kept so far;
* `Schemas.refer`: the name of a schema, which is kept if it is new.
-/

namespace RouteDoc.OpenApi

/-- Schemas under their names, and the name of each structure. -/
structure Schemas where
  byName : Entries Fields := []
  nameOf : Entries String := []
  deriving Inhabited

/-- The first of a name and its numbered forms that is not taken. Of `n` taken
names and `n + 1` numbered forms one is free. -/
def freshName (taken : List String) (base : String) : String :=
  if taken.contains base then
    (((List.range (taken.length + 1)).map fun n => base ++ toString (n + 2)).find? fun name =>
      !taken.contains name).getD base
  else base

/-- The name for a schema of a route: after the resource, with a mark for
lists. -/
def schemaName (path : String) (schema : Fields) (suffix : String) : String :=
  let kind := if schema.get? "type" == some (.str "array") then "List" else ""
  Text.pascal (Text.singularize (resource path)) ++ kind ++ suffix

/-- The name of a schema, which is kept under a new name unless one of the same
structure is there. -/
def Schemas.refer (s : Schemas) (path : String) (schema : Fields) (suffix : String) :
    String × Schemas :=
  let structureKey := Json.canonical (.obj schema)
  match s.nameOf.get? structureKey with
  | some name => (name, s)
  | none =>
    let name := freshName (s.byName.map (·.1)) (schemaName path schema suffix)
    (name, { byName := s.byName ++ [(name, schema)]
             nameOf := s.nameOf ++ [(structureKey, name)] })

end RouteDoc.OpenApi
