import RouteDoc.Record.Check
import RouteDoc.Text.Case

/-!
# Settings of a run

* `ScanOptions`: which files are read and how;
* `DocumentInfo`: the heading of the document;
* `ServiceSettings`: how the service is asked;
* the `check` of each reads it from a JSON object.
-/

namespace RouteDoc

open Record
open Number (Binary64)

/-- Which files are read and how. -/
structure ScanOptions where
  extensions : List String := [".js", ".ts", ".mjs"]
  excludedDirectories : List String := []
  excludedPatterns : List String := []
  frameworks : List String := ["express", "fastify", "koa"]
  maxFiles : Int := 1000
  maxFileSize : Option Int := none
  useService : Bool := false
  deriving DecidableEq, Repr, Inhabited

/-- The heading of the document. -/
structure DocumentInfo where
  title : String := "API Documentation"
  version : String := "1.0.0"
  description : String := "Generated API documentation"
  baseUrl : String := "http://localhost:3000"
  deriving DecidableEq, Repr, Inhabited

/-- The address of the service unless another is given. -/
def defaultServiceUrl : String := "https://api.groq.com/openai/v1"

/-- The model that is asked unless another is given. -/
def defaultModel : String := "meta-llama/llama-4-scout-17b-16e-instruct"

/-- How the service is asked. Times are in seconds. -/
structure ServiceSettings where
  apiKey : Option String := none
  baseUrl : String := defaultServiceUrl
  model : String := defaultModel
  temperature : Binary64 := .ofDecimal false 1 (-1)
  maxTokens : Int := 1500
  timeout : Binary64 := 30
  maxAttempts : Int := 3
  backoff : Binary64 := 1
  batchSize : Int := 3
  requestDelay : Binary64 := .ofDecimal false 5 (-1)
  batchDelay : Binary64 := 1
  deriving DecidableEq, Repr, Inhabited

/-- A list of texts. -/
def readTexts : Json → Checked (List String) := readList readText

namespace ScanOptions

/-- An extension in lower case, with a point in front; none for blanks. -/
def normalizeExtension (extension : String) : Option String :=
  match Text.lowerList (Text.trimList extension.toList) with
  | [] => none
  | '.' :: cs => some (String.ofList ('.' :: cs))
  | cs => some (String.ofList ('.' :: cs))

/-- Extensions in normal form, each once; there must be one. -/
def readExtensions (j : Json) : Checked (List String) :=
  (readTexts j).andThen fun extensions =>
    match (extensions.filterMap normalizeExtension).eraseDups with
    | [] => .fail .noExtension
    | normal => pure normal

/-- Names of frameworks in lower case; blank ones are dropped. -/
def readFrameworks (j : Json) : Checked (List String) :=
  (readTexts j).andThen fun names =>
    pure ((names.filter (!Text.isBlankText ·)).map fun n => Text.lower (Text.trim n))

/-- The options in a JSON object. -/
def check (fields : Fields) : Checked ScanOptions :=
  let preset : ScanOptions := {}
  ScanOptions.mk <$> field fields "extensions" readExtensions preset.extensions
    <*> field fields "exclude_dirs" readTexts preset.excludedDirectories
    <*> field fields "exclude_patterns" readTexts preset.excludedPatterns
    <*> field fields "frameworks" readFrameworks preset.frameworks
    <*> field fields "max_files" (readAtLeast 1) preset.maxFiles
    <*> field fields "max_file_size_bytes" (readOptional (readAbove 0)) preset.maxFileSize
    <*> field fields "ai_enabled" readFlag preset.useService

/-- The greatest size of a file that is read. What goes to the service is kept
smaller. -/
def sizeLimit (o : ScanOptions) : Int :=
  o.maxFileSize.getD (if o.useService then 1024 * 1024 else 10 * 1024 * 1024)

end ScanOptions

/-- The heading in a JSON object. -/
def DocumentInfo.check (fields : Fields) : Checked DocumentInfo :=
  let preset : DocumentInfo := {}
  DocumentInfo.mk <$> field fields "title" readText preset.title
    <*> field fields "version" readText preset.version
    <*> field fields "description" readText preset.description
    <*> field fields "base_url" readText preset.baseUrl

namespace ServiceSettings

/-- The settings in a JSON object. -/
def check (fields : Fields) : Checked ServiceSettings :=
  let preset : ServiceSettings := {}
  ServiceSettings.mk <$> field fields "api_key" (readOptional readText) preset.apiKey
    <*> field fields "base_url" readText preset.baseUrl
    <*> field fields "model" readText preset.model
    <*> field fields "temperature" readNumber preset.temperature
    <*> field fields "max_tokens" readInteger preset.maxTokens
    <*> field fields "timeout_s" readNumber preset.timeout
    <*> field fields "max_attempts" (readAtLeast 1) preset.maxAttempts
    <*> field fields "backoff_seconds" readNumber preset.backoff
    <*> field fields "batch_size" (readAtLeast 1) preset.batchSize
    <*> field fields "request_delay" readNumber preset.requestDelay
    <*> field fields "batch_delay" readNumber preset.batchDelay

/-- Variables of the environment. -/
abbrev Environment := String → Option String

/-- A variable, unless it is empty, or `preset`. -/
def variableOr (env : Environment) (name preset : String) : String :=
  match env name with
  | some v => if v.isEmpty then preset else v
  | none => preset

/-- The settings that the environment gives, with those of a JSON object that
are not null in their place. -/
def checkWith (env : Environment) (overrides : Fields) : Checked ServiceSettings :=
  let fromEnvironment : Fields :=
    [("api_key", ((env "GROQ_API_KEY").map Json.str).getD .null),
      ("base_url", .str (variableOr env "ROUTESCRIBE_BASE_URL" defaultServiceUrl)),
      ("model", .str (variableOr env "ROUTESCRIBE_MODEL" defaultModel))]
  check (overrides.foldl
    (fun fields o =>
      match o.2 with
      | .null => fields
      | v => fields.put o.1 v)
    fromEnvironment)

end ServiceSettings

end RouteDoc
