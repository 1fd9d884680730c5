import RouteDoc.Command.Arguments
import RouteDoc.Command.Step
import RouteDoc.OpenApi.Format
import RouteDoc.Run.Scan

/-!
# The commands

`scan` writes the document of a directory; `routes` lists the routes found in
it.

* `scanSpecs`, `routesSpecs`: the options of the commands;
* `scanSteps`, `routesSteps`: what they print and write;
* `runCommand`: a command line.
-/

namespace RouteDoc.Command

open Framework (Registry)
open ServiceSettings (Environment)

/-- Where a command runs: the variables, the files, the directory it is called
in, and how many cells the console has in a row. -/
structure Setting where
  env : Environment
  tree : FileTree
  here : FilePath
  width : Nat := 80
  registry : Registry := Framework.builtin

/-- An option of one spelling that takes a text. -/
def textOption (name : String) : OptionSpec := ⟨["--" ++ name], name, .text⟩

/-- An option of one spelling that takes an integer. -/
def integerOption (name : String) : OptionSpec := ⟨["--" ++ name], name, .integer⟩

/-- Options of both commands. -/
def sharedSpecs : List OptionSpec :=
  [integerOption "max-files", ⟨["--verbose", "-v"], "verbose", .flag true⟩,
    ⟨["--help"], "help", .flag true⟩]

/-- The options of `scan`. -/
def scanSpecs : List OptionSpec :=
  [⟨["--output", "-o"], "output", .text⟩, ⟨["--format", "-f"], "format", .text⟩,
    ⟨["--ai"], "ai", .flag true⟩, ⟨["--no-ai"], "ai", .flag false⟩, integerOption "max-file-size",
    textOption "ext", textOption "exclude-dir", textOption "exclude", textOption "framework",
    textOption "title", textOption "api-version", textOption "description", textOption "base-url",
    textOption "model"] ++ sharedSpecs

/-- The options of `routes`. -/
def routesSpecs : List OptionSpec :=
  [textOption "method", textOption "path-contains", textOption "file-contains",
    textOption "format"] ++ sharedSpecs

/-- A path with the home directory for a tilde at its start. -/
def Setting.expand (s : Setting) (path : FilePath) : FilePath :=
  match path, s.env "HOME" with
  | ⟨"", "~" :: names⟩, some home => (FilePath.ofText home).join ⟨"", names⟩
  | _, _ => path

/-- The directory that is searched. -/
def directoryOf (a : Arguments) : FilePath :=
  FilePath.ofText (a.positional.head?.getD "./src")

/-- A path from the root on, without links and double points. -/
def Setting.resolve? (s : Setting) (path : FilePath) : Except CommandResult FilePath :=
  match s.tree.realPath s.here (s.expand path) with
  | some p => .ok p
  | none => .error (.failure 1 (AccessFault.circleReport path.text))

/-- A field for texts, unless there are none. -/
def textsField (name : String) (xs : List String) : Fields :=
  if xs.isEmpty then [] else [(name, .strings xs)]

/-- The scan options that arguments give. -/
def optionsOf (a : Arguments) (useService : Bool) : Record.Checked ScanOptions :=
  ScanOptions.check
    (textsField "extensions" (a.texts "ext") ++ textsField "exclude_dirs" (a.texts "exclude-dir") ++
      textsField "exclude_patterns" (a.texts "exclude") ++
      textsField "frameworks" (a.texts "framework") ++
      [("max_files", .int ((a.integer? "max-files").getD 1000)),
        ("max_file_size_bytes", ((a.integer? "max-file-size").map Json.int).getD .null),
        ("ai_enabled", .bool useService)])

/-- A value that passes its checks; otherwise the command is misused. -/
def accepted {α : Type} (c : Record.Checked α) : Except CommandResult α :=
  match c with
  | .valid a => .ok a
  | .flawed flaws =>
    .error (.misuse (String.intercalate "\n" (flaws.map (·.fault.message))))

/-- A text filled up with blanks behind it. -/
def padEnd (width : Nat) (s : String) : String := s ++ "".pushn ' ' (width - s.length)

/-- A number with blanks before it. -/
def padNumber (width n : Nat) : String :=
  "".pushn ' ' (width - (toString n).length) ++ toString n

/-- The line about a route. -/
def routeLine (d : DocumentedRoute) : String :=
  s!"  {padEnd 7 d.route.method} {padEnd 35 d.route.path} {d.analysis.summary}" ++
    s!"  [dim]({d.route.sourceFile}:{d.route.line})[/dim]"

/-- The most routes that `scan` prints. -/
def listedRoutes : Nat := 50

/-- The lines about routes. -/
def routeSteps (results : List DocumentedRoute) : List Step :=
  (results.take listedRoutes).map (fun d => .print (routeLine d)) ++
    (if listedRoutes < results.length then
      [.print s!"  … and {results.length - listedRoutes} more"]
    else [])

/-- The lines about skipped files. -/
def skippedSteps (skipped : Entries Nat) : List Step :=
  if skipped.isEmpty then []
  else [.print "", .print "[bold]Skipped files:[/bold]"] ++
    skipped.map fun s => .print s!"  {padNumber 4 s.2}  {s.1}"

/-- What `scan` prints and writes. -/
def scanSteps (root : FilePath) (output : FilePath) (format : OpenApi.Format) (useService : Bool)
    (r : ScanReport) : List Step :=
  let names := String.intercalate ", " r.frameworks
  let generated := (r.results.filter (·.strategy == .generative)).length
  [.print s!"[bold green]routescribe[/bold green] scan: {root.text}",
    .print s!"Files scanned: {r.found.files}",
    .print s!"Route files: {r.found.candidates.length}",
    .print ("Frameworks: " ++ (if names.isEmpty then "-" else names))] ++
  (if r.found.routes.isEmpty then
    [.print "[yellow]No routes found[/yellow]",
      .print "Example: app.get('/users', ...) or router.post('/api', ...)"]
  else []) ++
  [.save output format.fileName (format.render r.document.toJson), .print "",
    .print s!"Routes found: [bold]{r.found.routes.length}[/bold]"] ++
  routeSteps r.results ++
  (if useService then [.print s!"AI analyses: {generated}/{r.results.length} (rest from templates)"]
  else []) ++
  skippedSteps r.skipped ++
  [.print "",
    .print ("[bold green]Wrote[/bold green] spec to: " ++
      (output.join ⟨"", [format.fileName]⟩).text)]

/-- What a text option gives, or `preset`. -/
def textOr (a : Arguments) (name preset : String) : String := (a.text? name).getD preset

/-- The heading that arguments give. -/
def infoOf (a : Arguments) : DocumentInfo :=
  let preset : DocumentInfo := {}
  { title := textOr a "title" preset.title
    version := textOr a "api-version" preset.version
    description := textOr a "description" preset.description
    baseUrl := textOr a "base-url" preset.baseUrl }

/-- The command `scan`. -/
def runScan (s : Setting) (a : Arguments) : Except CommandResult CommandResult := do
  let useService := a.flag "ai" true
  let some format := OpenApi.Format.ofName? (textOr a "format" "json")
    | .error (.misuse OpenApi.Format.unknownMessage)
  let options ← accepted (optionsOf a useService)
  let model : Fields := [("model", ((a.text? "model").map Json.str).getD .null)]
  let settings ← accepted (ServiceSettings.checkWith s.env model)
  let root ← s.resolve? (directoryOf a)
  let report ← (scan s.tree s.here s.registry { options, info := infoOf a, settings } root).mapError
    fun
      | .run e => .misuse e.message
      | e => .failure 1 e.message
  let output := s.expand (FilePath.ofText (textOr a "output" "./docs"))
  return perform s.tree s.here s.width (scanSteps root output format useService report)

/-- Whether a text is empty or part of another. -/
def occursIn (part whole : String) : Bool := Text.isInfix part.toList whole.toList

/-- Whether a route passes the filters that arguments give. -/
def passes (a : Arguments) (r : Route) : Bool :=
  let method := textOr a "method" ""
  (method.isEmpty || r.method == Text.upper method) &&
    occursIn (textOr a "path-contains" "") r.path &&
    occursIn (textOr a "file-contains" "") r.sourceFile

/-- The name of a handler, or what stands for one without. -/
def handlerLabel (r : Route) : String :=
  match r.handlerName with
  | some name => if name.isEmpty then "<inline>" else name
  | none => "<inline>"

/-- A route as a JSON object. -/
def routeJson (r : Route) : Json :=
  .obj [("method", .str r.method), ("path", .str r.path),
    ("params", .strings (r.parameters.map (·.name))), ("middleware", .strings r.middleware),
    ("handler", .str (handlerLabel r)), ("async", .bool r.isAsync), ("file", .str r.sourceFile),
    ("line", .int r.line)]

/-- The row of a route in a table. -/
def routeRow (r : Route) : List String :=
  [r.method, r.path, handlerLabel r, String.intercalate ", " r.middleware,
    s!"{r.sourceFile}:{r.line}"]

/-- What `routes` prints. -/
def routesSteps (format : String) (routes : List Route) : List Step :=
  if Text.lower format == "json" then
    [.print (Json.pretty true (.arr (routes.map routeJson)))]
  else
    [.print s!"[bold]Routes:[/bold] {routes.length}",
      .table ["METHOD", "PATH", "HANDLER", "MIDDLEWARE", "FILE:LINE"] (routes.map routeRow)]

/-- The command `routes`. -/
def runRoutes (s : Setting) (a : Arguments) : Except CommandResult CommandResult := do
  let options ← accepted (optionsOf a false)
  let root ← s.resolve? (directoryOf a)
  let found ← (discover s.tree s.here s.registry options root).mapError fun e => .misuse e.message
  return perform s.tree s.here s.width
    (routesSteps (textOr a "format" "table") (found.routes.filter (passes a)))

/-- A command: its name, its options, and what it does. -/
structure CommandSpec where
  name : String
  specs : List OptionSpec
  run : Setting → Arguments → Except CommandResult CommandResult

/-- The commands. -/
def commands : List CommandSpec :=
  [⟨"scan", scanSpecs, runScan⟩, ⟨"routes", routesSpecs, runRoutes⟩]

/-- A summary of the options of a command. -/
def CommandSpec.usage (c : CommandSpec) : String :=
  "Usage: routescribe " ++ c.name ++ " [OPTIONS] [DIRECTORY]\n" ++
    String.join (c.specs.map fun o => "  " ++ String.intercalate ", " o.spellings ++ "\n")

/-- A summary of the commands. -/
def usage : String :=
  "Usage: routescribe [OPTIONS] COMMAND [ARGS]...\n" ++
    String.join (commands.map fun c => "  " ++ c.name ++ "\n")

/-- A command with its arguments. -/
def CommandSpec.runWith (c : CommandSpec) (s : Setting) (args : List String) : CommandResult :=
  match readArguments c.specs args with
  | .error e => .misuse e.message
  | .ok a =>
    if a.flag "help" false then { output := c.usage }
    else
      match c.run s a with
      | .ok r | .error r => r

/-- The paths that a command line is about: what is searched, and where files
are written. -/
def pathsOf (args : List String) : List FilePath :=
  match commands.find? (some ·.name == args.head?) with
  | none => []
  | some c =>
    match readArguments c.specs (args.drop 1) with
    | .ok a => [directoryOf a, FilePath.ofText (textOr a "output" "./docs")]
    | .error _ => []

/-- A command line without the name of the program. -/
def runCommand (s : Setting) : List String → CommandResult
  | [] => .misuse UsageError.noCommand.message
  | "--help" :: _ => { output := usage }
  | "--" :: name :: args | name :: args =>
    match commands.find? (·.name == name) with
    | some c => c.runWith s args
    | none =>
      .misuse
        (if name.startsWith "-" then UsageError.unknownOption name else .unknownCommand name).message

end RouteDoc.Command
