import RouteDoc.Json.Writer
import RouteDoc.Text.Case
import RouteDoc.Yaml.Writer

/-!
# Formats of documents

* `Format.ofName?`: the format of a name;
* `Format.render`: a value as text.
-/

namespace RouteDoc.OpenApi

/-- How documents are written. -/
inductive Format
  | json
  | yaml
  deriving DecidableEq, Repr, Inhabited

namespace Format

/-- The name of a format, which is also the extension of its files. -/
def name : Format → String
  | json => "json"
  | yaml => "yaml"

/-- The format of a name, case and white space around it aside. -/
def ofName? (s : String) : Option Format :=
  match Text.trim (Text.lower s) with
  | "json" => some json
  | "yaml" | "yml" => some yaml
  | _ => none

/-- The name of the file that holds a document. -/
def fileName (f : Format) : String := s!"openapi.{f.name}"

/-- What is said where a name is not that of a format. -/
def unknownMessage : String := "format must be one of: json, yaml"

/-- A value as text. -/
def render (f : Format) (v : Json) : String :=
  match f with
  | json => Json.pretty false v ++ "\n"
  | yaml => Yaml.write v

end Format

end RouteDoc.OpenApi
