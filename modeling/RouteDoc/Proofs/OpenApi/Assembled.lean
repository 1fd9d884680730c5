import RouteDoc.Proofs.OpenApi.Declared
import RouteDoc.Proofs.OpenApi.Described

/-!
# The assembled document

* `assemble_eq`: routes with known verbs have a document, `assembled`, whose
  parts are given by what counts at each path (`governed`);
* `assemble_paths`: the paths and verbs of the document, and the route behind
  each operation.
-/

namespace RouteDoc.OpenApi

/-- What counts at each path, paths and verbs in order. -/
def governedPaths (ds : List DocumentedRoute) : List (String × Entries DocumentedRoute) :=
  (pathsOf (place ds)).map fun path => (path, governed ds path)

/-- The slots of a document, in order. -/
def slots (ds : List DocumentedRoute) : List Slot := slotsOf (governedPaths ds)

/-- The document of routes with known verbs. -/
def assembled (info : DocumentInfo) (frameworks : List String) (ds : List DocumentedRoute) :
    Document :=
  { info
    paths := (describePaths {} (governedPaths ds)).1
    schemas := (describePaths {} (governedPaths ds)).2.schemas.byName
    tags := sortedDistinct (ds.flatMap (·.analysis.tags))
    summary := summarize ds frameworks }

/-- A route of which the verb and the path are known. -/
def bareRoute (method path : String) : DocumentedRoute :=
  { route := { method, path }, analysis := { summary := "", description := "" } }

/-- Whether routes offer a verb at a path: it is declared there, or the verb
for several is and stands for it. -/
def Offers (ds : List DocumentedRoute) (path verb : String) : Prop :=
  (∃ d ∈ ds, normalizePath d.route.path = path ∧ d.route.method = verb) ∨
    (verb ∈ anyVerbStandsFor ∧
      ∃ d ∈ ds, normalizePath d.route.path = path ∧ d.route.method = anyVerb)

instance (ds : List DocumentedRoute) (path verb : String) : Decidable (Offers ds path verb) :=
  inferInstanceAs (Decidable (_ ∨ _))

/-- An operation documents a route as what counts for a verb at a path, whatever
was described before it. -/
def Operation.Documents (o : Operation) (path verb : String) (d : DocumentedRoute) : Prop :=
  ∃ p : Progress, o = (p.describe ⟨path, verb, d⟩).1

theorem mem_pathsOf {ds : List DocumentedRoute} {path : String} :
    path ∈ pathsOf (place ds) ↔ ∃ d ∈ ds, normalizePath d.route.path = path := by
  simp [pathsOf, mem_sortedDistinct, place]

theorem isSome_getLast?_declarations {ds : List DocumentedRoute} {path verb : String} :
    (declarations ds path verb).getLast?.isSome ↔
      ∃ d ∈ ds, normalizePath d.route.path = path ∧ d.route.method = verb := by
  rw [Option.isSome_iff_ne_none, Ne, List.getLast?_eq_none_iff]
  constructor
  · intro h
    obtain ⟨d, hd⟩ := List.exists_mem_of_ne_nil _ h
    exact ⟨d, mem_declarations.mp hd⟩
  · rintro ⟨d, hd⟩
    exact List.ne_nil_of_mem (mem_declarations.mpr hd)

theorem isSome_governing {ds : List DocumentedRoute} {path verb : String} :
    (governing ds path verb).isSome ↔ Offers ds path verb := by
  rw [governing, Option.isSome_or, Bool.or_eq_true, isSome_getLast?_declarations, Offers]
  by_cases h : verb ∈ anyVerbStandsFor
  · simp only [h, if_true, true_and, isSome_getLast?_declarations]
  · simp only [h, if_false, false_and, Option.isSome_none, Bool.false_eq_true]

theorem map_fst_governed (ds : List DocumentedRoute) (path : String) :
    (governed ds path).map (·.1) =
      singleVerbs.filter fun verb => (governing ds path verb).isSome := by
  rw [governed, List.map_filterMap, ← List.filterMap_eq_filter]
  refine List.filterMap_congr fun verb _ => ?_
  cases hg : governing ds path verb <;> simp [hg, Option.guard]

theorem map_lower_singleVerbs : singleVerbs.map Text.lower = verbOrder := by decide

/-- The names under which the verbs of a path stand. -/
theorem map_lower_governed_sublist (ds : List DocumentedRoute) (path : String) :
    ((governed ds path).map fun op => Text.lower op.1).Sublist verbOrder := by
  have h : ((governed ds path).map fun op => Text.lower op.1) =
      ((governed ds path).map (·.1)).map Text.lower := by rw [List.map_map]; rfl
  rw [h, map_fst_governed, ← map_lower_singleVerbs]
  exact List.filter_sublist.map _

theorem lower_inj : ∀ a ∈ singleVerbs, ∀ b ∈ singleVerbs, Text.lower a = Text.lower b → a = b := by
  decide

section

variable {ds : List DocumentedRoute} (hds : ∀ d ∈ ds, d.route.method ∈ verbs)
include hds

/-- At each path of a route some verb counts. -/
theorem governed_ne_nil {path : String} (h : path ∈ pathsOf (place ds)) :
    governed ds path ≠ [] := by
  obtain ⟨d, hd, rfl⟩ := mem_pathsOf.mp h
  have hoffer : ∃ verb ∈ singleVerbs, Offers ds (normalizePath d.route.path) verb := by
    by_cases hm : d.route.method = anyVerb
    · exact ⟨"GET", by decide, .inr ⟨by decide, d, hd, rfl, hm⟩⟩
    · exact ⟨_, mem_singleVerbs (hds d hd) hm, .inl ⟨d, hd, rfl, rfl⟩⟩
  obtain ⟨verb, hv, ho⟩ := hoffer
  obtain ⟨e, he⟩ := Option.isSome_iff_exists.mp (isSome_governing.mpr ho)
  exact List.ne_nil_of_mem (mem_governed.mpr ⟨hv, he⟩)

theorem orderedPaths_place : orderedPaths (place ds) = .ok (governedPaths ds) := by
  simp only [orderedPaths, inVerbOrder?_declaredAt hds]
  exact List.mapM_pure (m := Except AssemblyError)

/-- Routes with known verbs have a document. -/
theorem assemble_eq (info : DocumentInfo) (frameworks : List String) :
    assemble info frameworks ds = .ok (assembled info frameworks ds, replaced (place ds)) := by
  rw [assemble, orderedPaths_place hds]
  rfl

/-- The parts of the document, from one run over its slots. -/
theorem assembled_paths (info : DocumentInfo) (frameworks : List String) :
    (assembled info frameworks ds).schemas = (describeSlots {} (slots ds)).2.schemas.byName ∧
      flatten (assembled info frameworks ds).paths =
        (describeSlots {} (slots ds)).1.map (fun r => (r.1.path, verbEntry r)) ∧
      (assembled info frameworks ds).paths.map (fun e => (e.1, e.2.map (·.1))) =
        (governedPaths ds).map fun e => (e.1, e.2.map fun op => Text.lower op.1) := by
  have h := describePaths_eq {} (l := governedPaths ds) fun e he => by
    obtain ⟨path, hp, rfl⟩ := List.mem_map.mp he
    exact ⟨governed_ne_nil hds hp, (map_lower_governed_sublist ds path).nodup (by decide)⟩
  exact ⟨congrArg (·.schemas.byName) h.1, h.2⟩

end

theorem mem_slots {ds : List DocumentedRoute} {s : Slot} :
    s ∈ slots ds ↔ s.path ∈ pathsOf (place ds) ∧ (s.verb, s.route) ∈ governed ds s.path := by
  simp only [slots, slotsOf, governedPaths, slotsAt, List.mem_flatMap, List.mem_map]
  constructor
  · rintro ⟨_, ⟨path, hp, rfl⟩, op, hop, rfl⟩
    exact ⟨hp, hop⟩
  · rintro ⟨hp, hop⟩
    exact ⟨_, ⟨s.path, hp, rfl⟩, _, hop, rfl⟩

section

variable {info : DocumentInfo} {frameworks : List String} {ds : List DocumentedRoute}
  (hds : ∀ d ∈ ds, d.route.method ∈ verbs)
include hds

theorem map_fst_assembled_paths :
    (assembled info frameworks ds).paths.map (·.1) = pathsOf (place ds) := by
  have h := congrArg (List.map (·.1)) (assembled_paths hds info frameworks).2.2
  rw [List.map_map, List.map_map, governedPaths, List.map_map] at h
  exact h.trans (List.map_id'' (fun _ => rfl) _)

variable {path : String} {item : Entries Operation}
  (hitem : (path, item) ∈ (assembled info frameworks ds).paths)
include hitem

theorem map_fst_item :
    item.map (·.1) = (governed ds path).map fun op => Text.lower op.1 := by
  have h := List.mem_map_of_mem (f := fun e => (e.1, e.2.map (·.1))) hitem
  rw [(assembled_paths hds info frameworks).2.2, governedPaths, List.map_map] at h
  obtain ⟨_, -, h⟩ := List.mem_map.mp h
  obtain ⟨rfl, h⟩ := Prod.mk.inj h
  exact h.symm

/-- An operation of the document documents the route that counts for its
slot. -/
theorem documents_of_mem {verb : String} {o : Operation} (hv : verb ∈ singleVerbs)
    (ho : (Text.lower verb, o) ∈ item) :
    ∃ d, governing ds path verb = some d ∧ o.Documents path verb d := by
  have hflat : (path, Text.lower verb, o) ∈ flatten (assembled info frameworks ds).paths :=
    List.mem_flatMap.mpr ⟨_, hitem, List.mem_map.mpr ⟨_, ho, rfl⟩⟩
  rw [(assembled_paths hds info frameworks).2.1] at hflat
  obtain ⟨⟨s, o'⟩, hr, he⟩ := List.mem_map.mp hflat
  obtain ⟨hs, p, rfl⟩ := mem_describeSlots hr
  obtain ⟨hs', hd⟩ := mem_governed.mp (mem_slots.mp hs).2
  simp only [verbEntry, Prod.mk.injEq] at he
  obtain ⟨rfl, hl, rfl⟩ := he
  obtain rfl := lower_inj _ hs' _ hv hl
  exact ⟨s.route, hd, p, rfl⟩

end

/-- Routes with known verbs have a document. Its paths are those of the routes,
in order and each once. At a path stand the verbs that the routes offer there,
in their order, and under each the operation of the route that counts. -/
theorem assemble_paths (info : DocumentInfo) (frameworks : List String) {ds : List DocumentedRoute}
    (hds : ∀ d ∈ ds, d.route.method ∈ verbs) :
    ∃ doc reports, assemble info frameworks ds = .ok (doc, reports) ∧
      (doc.paths.map (·.1)).Pairwise (· < ·) ∧
      (∀ path, path ∈ doc.paths.map (·.1) ↔ ∃ d ∈ ds, normalizePath d.route.path = path) ∧
      ∀ path item, (path, item) ∈ doc.paths →
        (item.map (·.1)).Sublist verbOrder ∧
        ∀ verb ∈ singleVerbs,
          (Text.lower verb ∈ item.map (·.1) ↔ Offers ds path verb) ∧
          ∀ o, (Text.lower verb, o) ∈ item →
            ∃ d, governing ds path verb = some d ∧ o.Documents path verb d := by
  refine ⟨_, _, assemble_eq hds info frameworks, ?_, fun path => ?_, fun path item hitem => ?_⟩
  · rw [map_fst_assembled_paths hds]
    exact sortedDistinct_pairwise _
  · rw [map_fst_assembled_paths hds, mem_pathsOf]
  rw [map_fst_item hds hitem]
  refine ⟨map_lower_governed_sublist ds path, fun verb hv => ⟨?_, fun o ho => ?_⟩⟩
  · rw [List.mem_map, ← isSome_governing, Option.isSome_iff_exists]
    constructor
    · rintro ⟨⟨verb', d⟩, hop, hl⟩
      obtain ⟨hv', hd⟩ := mem_governed.mp hop
      exact ⟨d, lower_inj _ hv' _ hv hl ▸ hd⟩
    · rintro ⟨d, hd⟩
      exact ⟨(verb, d), mem_governed.mpr ⟨hv, hd⟩, rfl⟩
  · exact documents_of_mem hds hitem hv ho

/-- A route for several verbs and a later one for a single verb, with its path
spelled otherwise. -/
theorem assemble_paths_health :
    (∀ d ∈ [bareRoute "ALL" "/health", bareRoute "GET" "health/"], d.route.method ∈ verbs) ∧
      ∃ doc reports,
        assemble {} [] [bareRoute "ALL" "/health", bareRoute "GET" "health/"] =
            .ok (doc, reports) ∧
          doc.paths.map (·.1) = ["/health"] ∧
          ∀ item, ("/health", item) ∈ doc.paths →
            "patch" ∈ item.map (·.1) ∧ "head" ∉ item.map (·.1) ∧
              ∀ o, ("get", o) ∈ item →
                o.Documents "/health" "GET" (bareRoute "GET" "health/") := by
  have hds : ∀ d ∈ [bareRoute "ALL" "/health", bareRoute "GET" "health/"],
      d.route.method ∈ verbs := by decide
  obtain ⟨doc, reports, hok, hlt, hpaths, hitems⟩ := assemble_paths {} [] hds
  refine ⟨hds, doc, reports, hok, ?_, fun item hitem => ?_⟩
  · refine eq_of_pairwise_lt hlt (List.pairwise_singleton _ _) fun path => ?_
    rw [hpaths, List.mem_singleton]
    constructor
    · rintro ⟨d, hd, rfl⟩
      revert d
      decide
    · rintro rfl
      exact ⟨_, List.mem_cons_self, by decide⟩
  · have hverbs := (hitems "/health" item hitem).2
    refine ⟨(hverbs "PATCH" (by decide)).1.mpr (by decide),
      fun h => absurd ((hverbs "HEAD" (by decide)).1.mp h) (by decide), fun o ho => ?_⟩
    obtain ⟨d, hd, hdoc⟩ := (hverbs "GET" (by decide)).2 o ho
    have hlast : governing [bareRoute "ALL" "/health", bareRoute "GET" "health/"] "/health" "GET" =
        some (bareRoute "GET" "health/") := by rfl
    obtain rfl := Option.some.inj (hlast.symm.trans hd)
    exact hdoc

end RouteDoc.OpenApi
