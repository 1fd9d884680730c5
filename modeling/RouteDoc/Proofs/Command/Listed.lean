import RouteDoc.Command.Run
import RouteDoc.Proofs.Console.Unmarked
import RouteDoc.Proofs.FileTree.Walked
import RouteDoc.Proofs.Json.Pretty

/-!
# Routes listed as JSON

The command that lists routes prints a JSON text as a text with markup. The routes are not
read back from what is printed if something in the text is markup, and they are if nothing
is and the lines of the text fit on the console.

* `Selected`: the routes that the filters of a command line let through;
* `unmarked_of_read_line`, `read_line_of_unmarked`: when a value is read back from its
  printed text;
* `Listing`: a command line that lists routes as JSON;
* `read_routes_iff`: when the routes are read back.
-/

namespace RouteDoc

open Json (Legible Short maxIntegerDigits)
open Console (Fits Unmarked)

/-! ## Printed values -/

namespace Console

/-- A value is read back from its text with a line feed behind it. -/
theorem read_feed {v : Json} (h : Legible v) : Json.read (Json.pretty true v ++ "\n") = .ok v := by
  have hfeed : Json.Blanks ['\n'] := fun _ hc => List.mem_singleton.mp hc ▸ rfl
  rw [Json.read, String.toList_append]
  exact Json.readList_pretty h hfeed

/-- A value is read back from its printed text if nothing in it is markup and its lines
fit. -/
theorem read_line_of_unmarked {width : Nat} {v : Json} (h : Legible v)
    (hunmarked : Unmarked (Json.pretty true v).toList)
    (hfits : Fits width (Json.pretty true v).toList) :
    ∃ output, line width (Json.pretty true v) = .ok output ∧ Json.read output = .ok v := by
  have hink : ∀ c ∈ (Json.pretty true v).toList, Json.isInk c = true :=
    (Json.laid_write h 0).calm.isInk
  refine ⟨_, line_of_plain (plain_of_unmarked hink hunmarked) hink hfits, ?_⟩
  rw [String.ofList_toList]
  exact read_feed h

/-- If something is markup, then whatever the width of the console the marks of what is
printed are too few for the value. -/
theorem unmarked_of_read_line {width : Nat} {v : Json} {output : String} (h : Legible v)
    (hline : line width (Json.pretty true v) = .ok output) (hread : Json.read output = .ok v) :
    Unmarked (Json.pretty true v).toList := by
  have hlaid : Json.Laid (.value v) (Json.pretty true v).toList := Json.laid_write h 0
  by_contra hmarked
  rcases exists_printed_of_line hlaid.calm hmarked hline with rfl | ⟨p, hprinted, hfolded⟩
  · cases hread
  · obtain ⟨b, t, b', hsplit, hb, hb', hwritten⟩ := Json.exists_written hread
    obtain ⟨q, hq, hle⟩ := (hwritten.standsFor.blanks hb).append (Json.standsFor_blanks hb')
    obtain ⟨r, hr, hqr⟩ := hfolded.standsFor (hsplit ▸ hq)
    have hlt := hprinted.lt_markCount hr
    have hfeed : Json.markCount "\n".toList = 0 := rfl
    rw [String.toList_append, Json.markCount_append, hfeed, hlaid.marks] at hlt
    omega

end Console

/-! ## Listed routes -/

theorem Text.isInfix_iff {part cs : List Char} : isInfix part cs = true ↔ part <:+: cs := by
  induction cs with
  | nil => simp [isInfix]
  | cons c cs ih => simp [isInfix, List.infix_cons_iff, ih]

namespace Command

/-- A route that the filters let through: of the method asked for, in whatever case, and
with the texts asked for in its path and its file. -/
structure Selected (a : Arguments) (r : Route) : Prop where
  method : textOr a "method" "" = "" ∨ r.method = Text.upper (textOr a "method" "")
  path : (textOr a "path-contains" "").toList <:+: r.path.toList
  file : (textOr a "file-contains" "").toList <:+: r.sourceFile.toList

theorem passes_iff {a : Arguments} {r : Route} : passes a r = true ↔ Selected a r := by
  simp only [passes, occursIn, Bool.and_eq_true, Bool.or_eq_true, Text.isInfix_iff,
    String.isEmpty_iff, beq_iff_eq, and_assoc]
  exact ⟨fun ⟨hmethod, hpath, hfile⟩ => ⟨hmethod, hpath, hfile⟩,
    fun ⟨hmethod, hpath, hfile⟩ => ⟨hmethod, hpath, hfile⟩⟩

instance (a : Arguments) : DecidablePred (Selected a) := fun _ => decidable_of_iff _ passes_iff

/-- The routes found that the filters let through, in their order. -/
def listed (a : Arguments) (found : Discovery) : List Route :=
  found.routes.filter fun r => decide (Selected a r)

theorem listed_eq (a : Arguments) (found : Discovery) :
    listed a found = found.routes.filter (passes a) :=
  List.filter_congr fun _ _ => Bool.eq_iff_iff.mpr (decide_eq_true_iff.trans passes_iff.symm)

/-- The JSON value that lists routes. -/
def listing (routes : List Route) : Json := .arr (routes.map routeJson)

theorem legible_strings (xs : List String) : Legible (.strings xs) := by
  refine .arr fun x hx => ?_
  obtain ⟨s, -, rfl⟩ := List.mem_map.mp hx
  exact .str s

theorem legible_routeJson {r : Route} (h : r.line < 10 ^ maxIntegerDigits) :
    Legible (routeJson r) := by
  have hnames : ["method", "path", "params", "middleware", "handler", "async", "file",
      "line"].Nodup := by decide
  refine .obj hnames fun f hf => ?_
  simp only [List.mem_cons, List.not_mem_nil, or_false] at hf
  rcases hf with rfl | rfl | rfl | rfl | rfl | rfl | rfl | rfl
  · exact .str _
  · exact .str _
  · exact legible_strings _
  · exact legible_strings _
  · exact .str _
  · exact .bool _
  · exact .str _
  · exact .nat h

theorem legible_listing {routes : List Route} (h : ∀ r ∈ routes, r.line < 10 ^ maxIntegerDigits) :
    Legible (listing routes) := by
  refine .arr fun v hv => ?_
  obtain ⟨r, hr, rfl⟩ := List.mem_map.mp hv
  exact legible_routeJson (h r hr)

/-- The lines of routes that are read are not too long. -/
theorem line_lt_of_short {routes : List Route} (h : Short (listing routes)) :
    ∀ r ∈ routes, r.line < 10 ^ maxIntegerDigits := by
  intro r hr
  cases h with
  | of _ hroutes =>
    cases hroutes (routeJson r) (List.mem_map_of_mem hr) with
    | of _ hfields =>
      cases hfields (.int r.line) (by simp [routeJson, Json.members]) with
      | of hint _ => exact hint _ rfl

/-- The text that lists routes. -/
def listingText (routes : List Route) : String := Json.pretty true (listing routes)

/-- Nothing in the text that lists routes is markup, and no line number is too long to be
read. -/
structure Printable (routes : List Route) : Prop where
  unmarked : Unmarked (listingText routes).toList
  lines : ∀ r ∈ routes, r.line < 10 ^ maxIntegerDigits

/-- A command succeeds, and what it prints is JSON for a value. -/
structure Prints (r : CommandResult) (v : Json) : Prop where
  exitCode : r.exitCode = 0
  output : Json.read r.output = .ok v

/-! ## The command -/

/-- A command line that lists routes as JSON, what its arguments say, and what is found in
the directory that they name. -/
structure Listing (s : Setting) (args : List String) (a : Arguments) (found : Discovery) :
    Prop where
  arguments : readArguments routesSpecs args = .ok a
  help : a.flag "help" false = false
  format : Text.lower (textOr a "format" "table") = "json"
  found : ∃ options root, accepted (optionsOf a false) = .ok options ∧
    s.resolve? (directoryOf a) = .ok root ∧
    discover s.tree s.here s.registry options root = .ok found

variable {s : Setting} {args : List String} {a : Arguments} {found : Discovery}

/-- Such a command line prints one text. -/
theorem Listing.runCommand_eq (h : Listing s args a found) :
    runCommand s ("routes" :: args) =
      perform s.tree s.here s.width [.print (listingText (listed a found))] := by
  obtain ⟨options, root, hoptions, hroot, hfound⟩ := h.found
  have hroutes : runRoutes s a =
      .ok (perform s.tree s.here s.width [.print (listingText (listed a found))]) := by
    rw [runRoutes, hoptions, listingText, listing, listed_eq]
    simp only [bind, Except.bind, hroot, hfound, Except.mapError, routesSteps, h.format]
    rfl
  have hcommand :
      commands.find? (·.name == "routes") = some ⟨"routes", routesSpecs, runRoutes⟩ := rfl
  rw [runCommand, hcommand]
  · dsimp only
    rw [CommandSpec.runWith, h.arguments]
    dsimp only
    rw [h.help, hroutes]
    rfl
  · decide
  · exact fun _ _ heq => absurd heq (by decide)

/-- Printing one text succeeds with its lines, if it has any. -/
theorem prints_iff {tree : FileTree} {here : FilePath} {width : Nat} {text : String} {v : Json} :
    Prints (perform tree here width [.print text]) v ↔
      ∃ output, Console.line width text = .ok output ∧ Json.read output = .ok v := by
  cases hline : Console.line width text with
  | error e =>
    refine iff_of_false (fun h => ?_) (by simp)
    have hexit := h.exitCode
    simp [perform, Step.perform, hline, Except.mapError, Except.map, CommandResult.failure] at hexit
  | ok output =>
    have hresult : perform tree here width [.print text] = { output } := by
      simp [perform, Step.perform, hline, Except.mapError, Except.map]
    rw [hresult]
    exact ⟨fun h => ⟨output, rfl, h.output⟩, fun ⟨_, heq, hread⟩ => ⟨rfl, Except.ok.inj heq ▸ hread⟩⟩

/-- The routes that the filters let through are read back from what is printed, all of
them in their order, only if nothing in their text is markup and no line number is too long
to be read. Then they are, on a console on which the lines of their text fit. -/
theorem read_routes_iff (h : Listing s args a found) :
    (Prints (runCommand s ("routes" :: args)) (listing (listed a found)) →
      Printable (listed a found)) ∧
    (Fits s.width (listingText (listed a found)).toList → Printable (listed a found) →
      Prints (runCommand s ("routes" :: args)) (listing (listed a found))) := by
  rw [h.runCommand_eq, prints_iff]
  refine ⟨?_, fun hfits hprintable => Console.read_line_of_unmarked
    (legible_listing hprintable.lines) hprintable.unmarked hfits⟩
  rintro ⟨output, hline, hread⟩
  have hlines := line_lt_of_short (Json.short_of_readList hread)
  exact ⟨Console.unmarked_of_read_line (legible_listing hlines) hline hread, hlines⟩

/-! ## A tree with one file -/

/-- A tree with a text in its only file. -/
def treeOf (source : String) : FileTree := .directory [("app.js", .file source.toUTF8)]

/-- The root of that tree as a place to run in. -/
def settingOf (source : String) : Setting :=
  { env := fun _ => none, tree := treeOf source, here := top, width := 80 }

/-- Arguments that ask for the routes below the root that answer one method, as JSON. -/
def jsonLine : List String := ["/", "--format", "json", "--method", "get"]

/-- What these arguments say. -/
def jsonArguments : Arguments :=
  { options := [("format", .text "json"), ("method", .text "get")], positional := ["/"] }

theorem startOf_treeOf (source : String) :
    startOf (treeOf source) top Framework.builtin {} top = .ok top := by
  have hunknown : (ScanOptions.frameworks {}).filter (!Framework.builtin.ids.contains ·) = [] := by
    decide +kernel
  exact startOf_top rfl hunknown

theorem readArguments_json : readArguments routesSpecs jsonLine = .ok jsonArguments := by
  have hformat : "--format".startsWith "-" = true := by decide +kernel
  have hmethod : "--method".startsWith "-" = true := by decide +kernel
  have hpath : "/".startsWith "-" = false := by decide +kernel
  simp only [readArguments, jsonLine, readArgumentsFrom, hformat, hmethod, hpath]
  rfl

theorem accepted_json : accepted (optionsOf jsonArguments false) = .ok {} := rfl

theorem resolve?_json (source : String) :
    (settingOf source).resolve? (directoryOf jsonArguments) = .ok top := by
  have htop : (settingOf source).expand (directoryOf jsonArguments) = top := by
    have hdirectory : directoryOf jsonArguments = top := by decide +kernel
    rw [hdirectory]
    rfl
  rw [Setting.resolve?, htop, settingOf, realPath_top]

/-- What is found in that tree, if the file is small and seems to declare routes. -/
theorem exists_listing (source : String)
    (hsize : acceptsSize {} source.toUTF8.size = true)
    (hcontent : Text.decodeUtf8 source.toUTF8 = source.toList)
    (hroutes : (Framework.classify Framework.builtin (ScanOptions.frameworks {})
      (FilePath.text ⟨"/", ["app.js"]⟩) source.toList).hasRoutes = true) :
    ∃ found, Listing (settingOf source) jsonLine jsonArguments found ∧
      found.routes = (extractFrom source.toList "app.js" (some ".js")).routes := by
  have hpath : FilePath.ofText "/app.js" = ⟨"/", ["app.js"]⟩ := by decide +kernel
  have hway : FilePath.wayFrom ⟨"/", ["app.js"]⟩ top = "app.js" := by decide +kernel
  have htree : treeOf source = .directory [("app.js", .file source.toUTF8)] := rfl
  have hfiles : (walk (treeOf source) {} top).files = [⟨"/app.js", source.toUTF8.size, ".js"⟩] := by
    have hname : acceptsName {} ⟨"/", ["app.js"]⟩ = true := by decide +kernel
    have hup : "app.js" ≠ ".." := by decide
    have hfile : (FileTree.file source.toUTF8).isFile = true := rfl
    have htext : FilePath.text ⟨"/", ["app.js"]⟩ = "/app.js" := by decide +kernel
    have hextension : Text.lower (FilePath.extension ⟨"/", ["app.js"]⟩) = ".js" := by decide +kernel
    have hfound : filesFrom (treeOf source) {} top = [⟨"/app.js", source.toUTF8.size, ".js"⟩] := by
      rw [filesFrom_flat htree (List.pairwise_singleton _ _) (List.nodup_singleton _)
        (List.forall_mem_singleton.mpr hup) (List.forall_mem_singleton.mpr (.inl hfile)),
        List.filterMap_cons, topFile?_of_qualified hfile hname rfl hsize, htext, hextension]
      rfl
    rw [walk_eq (by decide), hfound]
    exact List.mergeSort_singleton _
  have hread : readText? (treeOf source) top ⟨"/", ["app.js"]⟩ (ScanOptions.sizeLimit {}) =
      some source.toList := by
    have hlimit : (source.toUTF8.size : Int) ≤ ScanOptions.sizeLimit {} :=
      of_decide_eq_true ((Bool.and_eq_true _ _).mp hsize).2
    rw [readText?_top htree (List.nodup_singleton _) List.mem_cons_self (by decide) hlimit,
      hcontent]
  refine ⟨_, ⟨readArguments_json, by decide +kernel, by decide +kernel, {}, top, accepted_json,
    resolve?_json source, by rw [settingOf, discover, startOf_treeOf, Except.map]⟩, ?_⟩
  simp only [Discovery.ofFindings, hfiles, List.map_cons, List.map_nil, List.flatMap_cons,
    List.flatMap_nil, List.append_nil, inspect, classifyFile, hpath, hread, hroutes, if_pos, hway]

/-- A route of that file. -/
def fileRoute (method path : String) (parameters : List PathParameter) (line : Nat) : Route :=
  { method, path, parameters, line, handlerName := some "list", sourceFile := "app.js" }

theorem line_lt_of_mem_fileRoute (method path : String) (parameters : List PathParameter) :
    ∀ r ∈ [fileRoute method path parameters 1], r.line < 10 ^ maxIntegerDigits := by
  intro r hr
  rw [List.mem_singleton.mp hr]
  exact Nat.one_lt_pow (by decide) (by decide)

/-- A source text with two routes in which nothing is markup. -/
def plainSource : String := "app.get('/users/:id', list);\napp.post('/users', list);"

theorem read_routes_iff_plain :
    ∃ found, Listing (settingOf plainSource) jsonLine jsonArguments found ∧
      found.routes.map (·.label) = ["GET /users/:id", "POST /users"] ∧
      (listed jsonArguments found).map (·.label) = ["GET /users/:id"] ∧
      Fits 80 (listingText (listed jsonArguments found)).toList ∧
      Printable (listed jsonArguments found) ∧
      Prints (runCommand (settingOf plainSource) ("routes" :: jsonLine))
        (listing (listed jsonArguments found)) := by
  obtain ⟨found, hlisting, hroutes⟩ := exists_listing plainSource (by decide +kernel)
    (by decide +kernel) (by decide +kernel)
  have hfound : found.routes =
      [fileRoute "GET" "/users/:id" [{ name := "id" }] 1, fileRoute "POST" "/users" [] 2] := by
    rw [hroutes]
    decide +kernel
  have hlisted : listed jsonArguments found =
      [fileRoute "GET" "/users/:id" [{ name := "id" }] 1] := by
    rw [listed, hfound]
    decide +kernel
  have htext : (∀ c ∈ (listingText (listed jsonArguments found)).toList, c.toNat < 0x80) ∧
      (∀ row ∈ Text.splitOnP (· == '\n') (listingText (listed jsonArguments found)).toList,
        row.length ≤ 80) ∧ Unmarked (listingText (listed jsonArguments found)).toList := by
    rw [hlisted]
    decide +kernel
  have hfits : Fits 80 (listingText (listed jsonArguments found)).toList :=
    Console.fits_of_ascii (by decide) htext.1 htext.2.1
  have hprintable : Printable (listed jsonArguments found) :=
    ⟨htext.2.2, hlisted ▸ line_lt_of_mem_fileRoute _ _ _⟩
  exact ⟨found, hlisting, by rw [hfound]; rfl, by rw [hlisted]; rfl, hfits, hprintable,
    (read_routes_iff hlisting).2 hfits hprintable⟩

/-- A source text with a path whose parameter is written in brackets. -/
def bracketSource : String := "app.get('/users/[id]', list);"

/-- A parameter in brackets is printed as if it were markup, and so is lost. -/
theorem bracketed_path_lost :
    ∃ found, Listing (settingOf bracketSource) jsonLine jsonArguments found ∧
      listed jsonArguments found = [fileRoute "GET" "/users/[id]" [] 1] ∧
      Prints (runCommand (settingOf bracketSource) ("routes" :: jsonLine))
        (listing [fileRoute "GET" "/users/" [] 1]) := by
  obtain ⟨found, hlisting, hroutes⟩ := exists_listing bracketSource (by decide +kernel)
    (by decide +kernel) (by decide +kernel)
  have hfound : found.routes = [fileRoute "GET" "/users/[id]" [] 1] := by
    rw [hroutes]
    decide +kernel
  have hlisted : listed jsonArguments found = [fileRoute "GET" "/users/[id]" [] 1] := by
    rw [listed, hfound]
    decide +kernel
  have hplain : (Console.plain (listingText [fileRoute "GET" "/users/[id]" [] 1])).toOption =
        some (listingText [fileRoute "GET" "/users/" [] 1]).toList ∧
      (∀ c ∈ (listingText [fileRoute "GET" "/users/" [] 1]).toList, c.toNat < 0x80) ∧
      ∀ row ∈ Text.splitOnP (· == '\n') (listingText [fileRoute "GET" "/users/" [] 1]).toList,
        row.length ≤ 80 := by
    decide +kernel
  obtain ⟨hplain, hascii, hrows⟩ := hplain
  have hfits : Fits 80 (listingText [fileRoute "GET" "/users/" [] 1]).toList :=
    Console.fits_of_ascii (by decide) hascii hrows
  refine ⟨found, hlisting, hlisted, ?_⟩
  rw [hlisting.runCommand_eq, prints_iff, hlisted]
  cases hresult : Console.plain (listingText [fileRoute "GET" "/users/[id]" [] 1]) with
  | error e =>
    rw [hresult] at hplain
    cases hplain
  | ok p =>
    rw [hresult] at hplain
    have hp : p = (listingText [fileRoute "GET" "/users/" [] 1]).toList := Option.some.inj hplain
    have hlegible : Legible (listing [fileRoute "GET" "/users/" [] 1]) :=
      legible_listing (line_lt_of_mem_fileRoute _ _ _)
    have hink : ∀ c ∈ p, Json.isInk c = true := hp ▸ (Json.laid_write hlegible 0).calm.isInk
    refine ⟨_, Console.line_of_plain hresult hink (hp ▸ hfits), ?_⟩
    rw [hp, String.ofList_toList]
    exact Console.read_feed hlegible

end Command

end RouteDoc
