import RouteDoc.Proofs.OpenApi.Replaced

/-!
# Routes in another order

Routes are found in the order of the files that declare them. Only the order of
those that share a path and a verb makes a difference to the document.

* `Reordered`: lists of routes that differ in the order of others;
* `Reordered.assembled_eq`: their documents are equal;
* `assemble_reordered`: assembling them gives the same document, and reports
  that differ in their order at most.
-/

namespace RouteDoc.OpenApi

/-- Two lists hold the same routes, those of one verb at one path in the same
order. -/
structure Reordered (ds ds' : List DocumentedRoute) : Prop where
  perm : ds.Perm ds'
  keeps : ∀ path verb, declarations ds path verb = declarations ds' path verb

namespace Reordered

/-- Two neighbours change places unless they declare one verb at one path. -/
theorem swap {d e : DocumentedRoute} (ds : List DocumentedRoute)
    (h : ¬(normalizePath d.route.path = normalizePath e.route.path ∧
      d.route.method = e.route.method)) : Reordered (d :: e :: ds) (e :: d :: ds) := by
  refine ⟨.swap e d ds, fun path verb => ?_⟩
  simp only [declarations, List.filter_cons, Bool.and_eq_true, beq_iff_eq]
  by_cases hd : normalizePath d.route.path = path ∧ d.route.method = verb
  · have he : ¬(normalizePath e.route.path = path ∧ e.route.method = verb) := fun he =>
      h ⟨hd.1.trans he.1.symm, hd.2.trans he.2.symm⟩
    rw [if_neg he, if_neg he]
  · rw [if_neg hd, if_neg hd]

variable {ds ds' : List DocumentedRoute} (h : Reordered ds ds')
include h

theorem governed_eq (path : String) : governed ds path = governed ds' path := by
  have hgoverning : ∀ verb, governing ds path verb = governing ds' path verb := fun verb => by
    rw [governing, governing, h.keeps, h.keeps]
  rw [governed, governed]
  exact List.filterMap_congr fun verb _ => by rw [hgoverning]

theorem pathsOf_eq : pathsOf (place ds) = pathsOf (place ds') :=
  sortedDistinct_congr fun _ => ((h.perm.map _).map _).mem_iff

theorem summarize_eq {frameworks frameworks' : List String}
    (hf : ∀ f, f ∈ frameworks ↔ f ∈ frameworks') :
    summarize ds frameworks = summarize ds' frameworks' := by
  rw [summarize, summarize, h.perm.length_eq, sortedDistinct_congr hf,
    tally_congr (h.perm.map fun d => d.route.method),
    tally_congr (h.perm.map fun d => category d.analysis)]

/-- The document, with its identifiers, its schemas and its figures. -/
theorem assembled_eq (info : DocumentInfo) {frameworks frameworks' : List String}
    (hf : ∀ f, f ∈ frameworks ↔ f ∈ frameworks') :
    assembled info frameworks ds = assembled info frameworks' ds' := by
  have hpaths : governedPaths ds = governedPaths ds' := by
    rw [governedPaths, governedPaths, h.pathsOf_eq]
    exact List.map_congr_left fun path _ => by rw [h.governed_eq]
  have htags : sortedDistinct (ds.flatMap (·.analysis.tags)) =
      sortedDistinct (ds'.flatMap (·.analysis.tags)) :=
    sortedDistinct_congr fun _ => (h.perm.flatMap_right _).mem_iff
  rw [assembled, assembled, hpaths, htags, h.summarize_eq hf]

end Reordered

/-- Routes with known verbs have a document that depends neither on the order in
which they come, those of one verb at one path apart, nor on the order of the
frameworks or how often one is named. What is reported depends on neither, but
for its order. -/
theorem assemble_reordered (info : DocumentInfo) {frameworks frameworks' : List String}
    {ds ds' : List DocumentedRoute} (hds : ∀ d ∈ ds, d.route.method ∈ verbs)
    (h : Reordered ds ds') (hf : ∀ f, f ∈ frameworks ↔ f ∈ frameworks') :
    ∃ doc reports reports', assemble info frameworks ds = .ok (doc, reports) ∧
      assemble info frameworks' ds' = .ok (doc, reports') ∧ reports.Perm reports' := by
  have hds' : ∀ d ∈ ds', d.route.method ∈ verbs := fun d hd => hds d (h.perm.mem_iff.mpr hd)
  refine ⟨_, _, _, assemble_eq hds info frameworks, ?_, replaced_perm h.keeps⟩
  rw [assemble_eq hds' info frameworks', h.assembled_eq info hf]

/-- A route found before another or after it. -/
theorem assemble_reordered_items :
    (∀ d ∈ [bareRoute "POST" "/items", bareRoute "GET" "/items"], d.route.method ∈ verbs) ∧
      Reordered [bareRoute "POST" "/items", bareRoute "GET" "/items"]
        [bareRoute "GET" "/items", bareRoute "POST" "/items"] ∧
      (∀ f, f ∈ ["express", "koa"] ↔ f ∈ ["koa", "express", "koa"]) ∧
      ∃ doc reports reports',
        assemble {} ["express", "koa"] [bareRoute "POST" "/items", bareRoute "GET" "/items"] =
            .ok (doc, reports) ∧
          assemble {} ["koa", "express", "koa"]
              [bareRoute "GET" "/items", bareRoute "POST" "/items"] = .ok (doc, reports') ∧
          reports.Perm reports' := by
  have hds : ∀ d ∈ [bareRoute "POST" "/items", bareRoute "GET" "/items"],
      d.route.method ∈ verbs := by decide
  have hswap : Reordered [bareRoute "POST" "/items", bareRoute "GET" "/items"]
      [bareRoute "GET" "/items", bareRoute "POST" "/items"] := .swap [] (by decide)
  have hf : ∀ f, f ∈ ["express", "koa"] ↔ f ∈ ["koa", "express", "koa"] := fun f => by
    simp only [List.mem_cons, List.not_mem_nil, or_false]
    tauto
  exact ⟨hds, hswap, hf, assemble_reordered {} hds hswap hf⟩

end RouteDoc.OpenApi
