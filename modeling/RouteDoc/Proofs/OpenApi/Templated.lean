import RouteDoc.Proofs.OpenApi.Assembled
import RouteDoc.Proofs.OpenApi.Parameters
import RouteDoc.Proofs.Route.Names
import RouteDoc.Service.Batch

/-!
# Parameters and templates

The parameters of an operation are read from a path as it is written, the names
in its template from the path in normal form.

* `assemble_templated`: which parameters of an operation the template names, and when
  it names these only;
* `undeclared_angles`: a name in angle brackets is not among them.
-/

namespace RouteDoc

/-- The names that a path gives as parameters are those after colons and in
braces. -/
theorem mem_pathParameters {path name : String} :
    name ∈ (pathParameters path).map (·.name) ↔ name ∈ namedIn [.colon, .braces] path.toList := by
  rw [map_name_pathParameters, List.mem_eraseDups]

namespace OpenApi

/-- The names between braces in the template of a path. -/
def templateNames (path : String) : List String := namedIn [.braces] path.toList

/-! ## Routes analysed by their shape -/

/-- What counts for a verb at a path is declared there, for this verb or for
several. -/
theorem mem_of_governing {ds : List DocumentedRoute} {path verb : String} {d : DocumentedRoute}
    (h : governing ds path verb = some d) :
    d ∈ ds ∧ normalizePath d.route.path = path ∧
      (d.route.method = verb ∨ d.route.method = anyVerb ∧ verb ∈ anyVerbStandsFor) := by
  rw [governing, Option.or_eq_some_iff] at h
  rcases h with h | ⟨-, h⟩
  · obtain ⟨hd, hpath, hmethod⟩ := mem_declarations.mp (List.mem_of_getLast? h)
    exact ⟨hd, hpath, .inl hmethod⟩
  · split at h
    · rename_i hverb
      obtain ⟨hd, hpath, hmethod⟩ := mem_declarations.mp (List.mem_of_getLast? h)
      exact ⟨hd, hpath, .inr ⟨hmethod, hverb⟩⟩
    · cases h

/-- What counts for a verb at a path has its operation in the document. -/
theorem exists_mem_of_governing (info : DocumentInfo) (frameworks : List String)
    {ds : List DocumentedRoute} (hds : ∀ d ∈ ds, d.route.method ∈ verbs) {path verb : String}
    {d : DocumentedRoute} (hv : verb ∈ singleVerbs) (hd : governing ds path verb = some d) :
    ∃ item o, (path, item) ∈ (assembled info frameworks ds).paths ∧
      (Text.lower verb, o) ∈ item ∧ o.Documents path verb d := by
  have hpath : path ∈ (assembled info frameworks ds).paths.map (·.1) := by
    rw [map_fst_assembled_paths hds, mem_pathsOf]
    obtain ⟨hmem, hplace, -⟩ := mem_of_governing hd
    exact ⟨d, hmem, hplace⟩
  obtain ⟨⟨_, item⟩, hitem, rfl⟩ := List.mem_map.mp hpath
  have hverb : Text.lower verb ∈ item.map (·.1) := by
    rw [map_fst_item hds hitem]
    exact List.mem_map.mpr ⟨(verb, d), mem_governed.mpr ⟨hv, hd⟩, rfl⟩
  obtain ⟨⟨_, o⟩, ho, rfl⟩ := List.mem_map.mp hverb
  obtain ⟨e, he, hdoc⟩ := documents_of_mem hds hitem hv ho
  obtain rfl := Option.some.inj (hd.symm.trans he)
  exact ⟨item, o, hitem, ho, hdoc⟩

/-- What is put in the path by an analysis from the shape of a route is among
the parameters of the route. -/
theorem mem_of_mem_pathNames_template {r : Route} {name : String}
    (h : name ∈ pathNames (templateAnalysis r).parameters) : name ∈ r.parameters.map (·.name) := by
  obtain ⟨p, hp, hname⟩ := List.mem_map.mp h
  obtain ⟨q, hq, rfl⟩ := List.mem_map.mp (List.mem_filter.mp hp).1
  exact List.mem_map.mpr ⟨q, hq, hname⟩

/-- The parameters in the path of an operation are the names that the path of its
route gives after colons and in braces. -/
theorem mem_pathNames_of_documents {o : Operation} {path verb : String} {r : Route}
    (hparams : r.parameters = pathParameters r.path)
    (ho : o.Documents path verb ⟨r, templateAnalysis r, .template⟩) {name : String} :
    name ∈ pathNames o.parameters ↔ name ∈ namedIn [.colon, .braces] r.path.toList := by
  obtain ⟨p, rfl⟩ := ho
  change name ∈ pathNames (operationParameters r (templateAnalysis r)) ↔ _
  rw [mem_pathNames_operationParameters, or_iff_left_of_imp mem_of_mem_pathNames_template, hparams,
    mem_pathParameters]

/-- The template of a path names what the path gives in some style. -/
theorem mem_templateNames_normalizePath {path name : String} :
    name ∈ templateNames (normalizePath path) ↔
      name ∈ namedIn [.angles] path.toList ∨ name ∈ namedIn [.colon, .braces] path.toList := by
  rw [templateNames, normalizePath, String.toList_ofList, namedIn_normalizeList, mem_namedIn_cons]

section

variable {info : DocumentInfo} {frameworks : List String} {rs : List Route}
  (hverbs : ∀ r ∈ rs, r.method ∈ verbs)
include hverbs

theorem method_mem_verbs_of_mem_results :
    ∀ d ∈ (Service.templateResults rs).results, d.route.method ∈ verbs := by
  intro d hd
  obtain ⟨r, hr, rfl⟩ := List.mem_map.mp hd
  exact hverbs r hr

/-- Behind each operation stands one of the routes, analysed by its shape. -/
theorem exists_documents_of_mem {path verb : String} {item : Entries Operation} {o : Operation}
    (hitem : (path, item) ∈ (assembled info frameworks (Service.templateResults rs).results).paths)
    (ho : (verb, o) ∈ item) :
    ∃ r ∈ rs, ∃ single, normalizePath r.path = path ∧ Text.lower single = verb ∧
      (r.method = single ∨ r.method = anyVerb ∧ single ∈ anyVerbStandsFor) ∧
      o.Documents path single ⟨r, templateAnalysis r, .template⟩ := by
  have hds := method_mem_verbs_of_mem_results hverbs
  have hkey : verb ∈ item.map (·.1) := List.mem_map.mpr ⟨_, ho, rfl⟩
  rw [map_fst_item hds hitem] at hkey
  obtain ⟨⟨single, e⟩, hop, rfl⟩ := List.mem_map.mp hkey
  have hsingle : single ∈ singleVerbs := (mem_governed.mp hop).1
  obtain ⟨d, hgoverning, hdoc⟩ := documents_of_mem hds hitem hsingle ho
  obtain ⟨hd, hpath, hmethod⟩ := mem_of_governing hgoverning
  obtain ⟨r, hr, rfl⟩ := List.mem_map.mp hd
  exact ⟨r, hr, single, hpath, rfl, hmethod, hdoc⟩

end

/-- Routes that have the parameters of their paths and are analysed by their shape
have a document. Each of its operations belongs to one of them; its parameters in
the path are those that the route names after colons and in braces, and its
template names these and those in angle brackets. They are the same exactly where
the route gives no name in angle brackets only. -/
theorem assemble_templated (info : DocumentInfo) (frameworks : List String) {rs : List Route}
    (hverbs : ∀ r ∈ rs, r.method ∈ verbs)
    (hparams : ∀ r ∈ rs, r.parameters = pathParameters r.path) :
    ∃ doc reports,
      assemble info frameworks (Service.templateResults rs).results = .ok (doc, reports) ∧
        ∀ path item verb o, (path, item) ∈ doc.paths → (verb, o) ∈ item →
          ∃ r ∈ rs, normalizePath r.path = path ∧
            (Text.lower r.method = verb ∨ r.method = anyVerb) ∧
            (∀ name, name ∈ pathNames o.parameters ↔
              name ∈ namedIn [.colon, .braces] r.path.toList) ∧
            (∀ name, name ∈ templateNames path ↔
              name ∈ namedIn [.angles] r.path.toList ∨ name ∈ pathNames o.parameters) ∧
            ((∀ name, name ∈ pathNames o.parameters ↔ name ∈ templateNames path) ↔
              ∀ name ∈ namedIn [.angles] r.path.toList,
                name ∈ namedIn [.colon, .braces] r.path.toList) := by
  have hds := method_mem_verbs_of_mem_results hverbs
  refine ⟨_, _, assemble_eq hds info frameworks, fun path item verb o hitem ho => ?_⟩
  obtain ⟨r, hr, single, rfl, rfl, hmethod, hdoc⟩ := exists_documents_of_mem hverbs hitem ho
  have hdeclared : ∀ name, name ∈ pathNames o.parameters ↔
      name ∈ namedIn [.colon, .braces] r.path.toList := fun name =>
    mem_pathNames_of_documents (hparams r hr) hdoc
  have htemplate : ∀ name, name ∈ templateNames (normalizePath r.path) ↔
      name ∈ namedIn [.angles] r.path.toList ∨ name ∈ pathNames o.parameters := fun name => by
    rw [mem_templateNames_normalizePath, hdeclared]
  refine ⟨r, hr, rfl, ?_, hdeclared, htemplate, ?_⟩
  · exact hmethod.imp (congrArg Text.lower) And.left
  · simp only [htemplate, ← hdeclared]
    exact forall_congr' fun name => ⟨fun h hangles => h.mpr (.inl hangles),
      fun h => ⟨.inr, fun hor => hor.elim h id⟩⟩

/-- A route with its parameters. -/
def parametrized (method path : String) : Route :=
  { method, path, parameters := pathParameters path }

/-- Routes with names in all styles. -/
def styledRoutes : List Route :=
  [parametrized "ALL" "/a/<x>:x", parametrized "GET" "/b/\x7bid\x7d"]

/-- A name in angle brackets is a parameter if it stands after a colon too. -/
theorem assemble_templated_styles :
    (∀ r ∈ styledRoutes, r.method ∈ verbs) ∧
      (∀ r ∈ styledRoutes, r.parameters = pathParameters r.path) ∧
      ∃ doc reports,
        assemble {} [] (Service.templateResults styledRoutes).results = .ok (doc, reports) ∧
          ∀ path item verb o, (path, item) ∈ doc.paths → (verb, o) ∈ item →
            ∀ name, name ∈ pathNames o.parameters ↔ name ∈ templateNames path := by
  have hverbs : ∀ r ∈ styledRoutes, r.method ∈ verbs := by decide
  have hparams : ∀ r ∈ styledRoutes, r.parameters = pathParameters r.path := by decide
  have hstyles : ∀ r ∈ styledRoutes, ∀ name ∈ namedIn [.angles] r.path.toList,
      name ∈ namedIn [.colon, .braces] r.path.toList := by decide
  obtain ⟨doc, reports, hok, hall⟩ := assemble_templated {} [] hverbs hparams
  refine ⟨hverbs, hparams, doc, reports, hok, fun path item verb o hitem ho => ?_⟩
  obtain ⟨r, hr, -, -, -, -, hiff⟩ := hall path item verb o hitem ho
  exact hiff.mpr (hstyles r hr)

/-- A name in angle brackets alone is one of the template, but no parameter. -/
theorem undeclared_angles :
    ∃ doc reports,
      assemble {} [] (Service.templateResults [parametrized "GET" "/users/<id>"]).results =
          .ok (doc, reports) ∧
        ∃ item o, ("/users/\x7bid\x7d", item) ∈ doc.paths ∧ ("get", o) ∈ item ∧
          templateNames "/users/\x7bid\x7d" = ["id"] ∧ pathNames o.parameters = [] := by
  have hds : ∀ d ∈ (Service.templateResults [parametrized "GET" "/users/<id>"]).results,
      d.route.method ∈ verbs := by decide
  have hgoverning : governing (Service.templateResults [parametrized "GET" "/users/<id>"]).results
      "/users/\x7bid\x7d" "GET" =
        some ⟨parametrized "GET" "/users/<id>",
          templateAnalysis (parametrized "GET" "/users/<id>"), .template⟩ := by rfl
  obtain ⟨item, o, hitem, ho, hdoc⟩ :=
    exists_mem_of_governing {} [] hds (by decide) hgoverning
  have hnone : namedIn [.colon, .braces] "/users/<id>".toList = [] := by decide
  refine ⟨_, _, assemble_eq hds {} [], item, o, hitem, ho, by decide,
    List.eq_nil_iff_forall_not_mem.mpr fun name hname => ?_⟩
  rw [mem_pathNames_of_documents rfl hdoc] at hname
  exact List.not_mem_nil (hnone ▸ hname)

end OpenApi

end RouteDoc
