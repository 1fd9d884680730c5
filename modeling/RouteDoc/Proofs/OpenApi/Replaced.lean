import RouteDoc.Proofs.OpenApi.Assembled

/-!
# Reports of replaced declarations

Declarations are reported as they are passed, each against the last one of its
path and verb before it. Sorted by path and verb, the reports are those of each
declaration that a later one follows.

* `filter_replaced`: the reports about a verb at a path;
* `replaced_perm`: the reports depend on the order of the declarations of each
  verb at each path only;
* `isAbout_reports`: the number of reports about a verb at a path, and when it
  is that of the declarations that do not count.
-/

namespace RouteDoc

/-- Whether a report is about a verb at a path. -/
def Diagnostic.isAbout (path verb : String) : Diagnostic → Bool
  | .duplicateOperation p _ later => p == path && later.method == verb
  | _ => false

namespace OpenApi

/-- The reports of declarations that each replace the one before. -/
def replacements (path : String) : List DocumentedRoute → List Diagnostic
  | d :: e :: rest => .duplicateOperation path d.route e.route :: replacements path (e :: rest)
  | _ => []

theorem length_replacements (path : String) (ds : List DocumentedRoute) :
    (replacements path ds).length = ds.length - 1 := by
  induction ds with
  | nil => rfl
  | cons d ds ih =>
    cases ds with
    | nil => rfl
    | cons e ds => rw [replacements, List.length_cons, ih]; rfl

/-- Whether a declaration is one of a verb at a path. -/
def isAt (path verb : String) (e : Placed) : Bool := e.1 == path && e.2.route.method == verb

/-- The reports about a verb at a path, from a list of which `earlier` was
passed: the last declaration passed is replaced by the next. -/
theorem filter_replacedAfter {path verb : String} (hv : verb ≠ anyVerb)
    (earlier placed : List Placed) :
    (replacedAfter earlier placed).filter (·.isAbout path verb) =
      replacements path
        (((earlier.find? (isAt path verb)).toList ++ placed.filter (isAt path verb)).map (·.2)) := by
  induction placed generalizing earlier with
  | nil => cases earlier.find? (isAt path verb) <;> rfl
  | cons e placed ih =>
    obtain ⟨p, d⟩ := e
    rw [replacedAfter, List.filter_append, ih, List.find?_cons, List.filter_cons]
    -- Either `d` is the next declaration of the verb there, or nothing changes.
    by_cases h : isAt path verb (p, d) = true
    · obtain ⟨hp, hm⟩ : p = path ∧ d.route.method = verb := by simpa [isAt] using h
      subst hp hm
      have hsame : (fun e : Placed => e.1 == p && e.2.route.method == d.route.method) =
          isAt p d.route.method := rfl
      rw [h, if_neg (by simpa using hv), hsame]
      cases earlier.find? (isAt p d.route.method) with
      | none => rfl
      | some e => simp [Diagnostic.isAbout, replacements]
    · have hother : ∀ e : Placed,
          (Diagnostic.duplicateOperation p e.2.route d.route).isAbout path verb = false :=
        fun _ => Bool.eq_false_iff.mpr h
      rw [if_neg h, Bool.eq_false_iff.mpr h]
      split
      · rfl
      · split
        · rw [List.filter_singleton, hother]
          rfl
        · rfl

/-- The reports name declarations for single verbs. -/
theorem mem_replacedAfter {earlier placed : List Placed} {r : Diagnostic}
    (h : r ∈ replacedAfter earlier placed) :
    ∃ path before later, r = .duplicateOperation path before later ∧ later.method ≠ anyVerb := by
  induction placed generalizing earlier with
  | nil => cases h
  | cons e placed ih =>
    obtain ⟨p, d⟩ := e
    rw [replacedAfter, List.mem_append] at h
    rcases h with h | h
    · split at h
      · cases h
      · rename_i hm
        split at h
        · rename_i e _
          exact ⟨p, e.2.route, d.route, List.mem_singleton.mp h, by simpa using hm⟩
        · cases h
    · exact ih h

theorem map_snd_filter_place (ds : List DocumentedRoute) (path verb : String) :
    ((place ds).filter (isAt path verb)).map (·.2) = declarations ds path verb := by
  have hat : isAt path verb ∘ (fun d : DocumentedRoute => (normalizePath d.route.path, d)) =
      fun d => normalizePath d.route.path == path && d.route.method == verb := by
    funext d
    rw [Function.comp_apply, isAt]
  rw [place, List.filter_map, List.map_map, hat, declarations]
  exact List.map_id'' (fun _ => rfl) _

/-- The reports about a verb at a path: each declaration of the verb there that
another follows, with the one that replaces it. Declarations for several verbs
are not reported. -/
theorem filter_replaced (ds : List DocumentedRoute) (path verb : String) :
    (replaced (place ds)).filter (·.isAbout path verb) =
      if verb = anyVerb then [] else replacements path (declarations ds path verb) := by
  split
  · rename_i hv
    refine List.filter_eq_nil_iff.mpr fun r hr => ?_
    obtain ⟨p, before, later, rfl, hm⟩ := mem_replacedAfter hr
    simp [Diagnostic.isAbout, hv, hm]
  · rename_i hv
    rw [replaced, filter_replacedAfter hv, List.find?_nil, Option.toList_none, List.nil_append,
      map_snd_filter_place]

/-- The reports depend on the order of the declarations of each verb at each
path only. -/
theorem replaced_perm {ds ds' : List DocumentedRoute}
    (h : ∀ path verb, declarations ds path verb = declarations ds' path verb) :
    (replaced (place ds)).Perm (replaced (place ds')) := by
  have hcount : ∀ (ds : List DocumentedRoute) path before later,
      (replaced (place ds)).count (.duplicateOperation path before later) =
        ((replaced (place ds)).filter (·.isAbout path later.method)).count
          (.duplicateOperation path before later) := fun ds path before later =>
    (List.count_filter (by simp [Diagnostic.isAbout])).symm
  -- A report is counted among those about its own verb and path.
  refine List.perm_iff_count.mpr fun r => ?_
  by_cases hr : ∃ path before later, r = .duplicateOperation path before later
  · obtain ⟨path, before, later, rfl⟩ := hr
    rw [hcount ds, hcount ds', filter_replaced, filter_replaced, h]
  · have hnot : ∀ ds : List DocumentedRoute, r ∉ replaced (place ds) := fun ds hm => by
      obtain ⟨path, before, later, he, -⟩ := mem_replacedAfter hm
      exact hr ⟨path, before, later, he⟩
    rw [List.count_eq_zero_of_not_mem (hnot ds), List.count_eq_zero_of_not_mem (hnot ds')]

/-- What assembling reports. -/
theorem reports_eq {info : DocumentInfo} {frameworks : List String} {ds : List DocumentedRoute}
    {doc : Document} {reports : List Diagnostic}
    (h : assemble info frameworks ds = .ok (doc, reports)) : reports = replaced (place ds) := by
  rw [assemble] at h
  cases ho : orderedPaths (place ds) with
  | error e => rw [ho] at h; cases h
  | ok paths => rw [ho] at h; cases h; rfl

/-- Where assembling succeeds, the reports about a verb at a path are those of
its declarations there that a later one replaces, unless the verb is the one for
several: the reports are as many as the declarations less one exactly where the
verb is another or stands there once at most. -/
theorem isAbout_reports (info : DocumentInfo) (frameworks : List String)
    (ds : List DocumentedRoute) :
    ((∀ d ∈ ds, d.route.method ∈ verbs) → ∃ result, assemble info frameworks ds = .ok result) ∧
      ∀ doc reports, assemble info frameworks ds = .ok (doc, reports) → ∀ path verb,
        reports.filter (·.isAbout path verb) =
            (if verb = anyVerb then [] else replacements path (declarations ds path verb)) ∧
          (reports.countP (·.isAbout path verb) = (declarations ds path verb).length - 1 ↔
            verb ≠ anyVerb ∨ (declarations ds path verb).length ≤ 1) := by
  refine ⟨fun hds => ⟨_, assemble_eq hds info frameworks⟩, fun doc reports h path verb => ?_⟩
  rw [List.countP_eq_length_filter, reports_eq h, filter_replaced]
  refine ⟨rfl, ?_⟩
  split
  · rename_i hv
    rw [List.length_nil]
    constructor
    · exact fun h => .inr (by omega)
    · rintro (h | h)
      · exact absurd hv h
      · omega
  · rename_i hv
    exact ⟨fun _ => .inl hv, fun _ => length_replacements path _⟩

/-- The second of two declarations for several verbs replaces the first without
a report. -/
theorem replaced_unreported :
    ∃ doc reports,
      assemble {} [] [bareRoute "ALL" "/health", bareRoute "ALL" "/health"] = .ok (doc, reports) ∧
        (declarations [bareRoute "ALL" "/health", bareRoute "ALL" "/health"] "/health"
          "ALL").length = 2 ∧
        reports.countP (·.isAbout "/health" "ALL") = 0 :=
  ⟨_, _, assemble_eq (by decide) {} [], by decide, by decide⟩

end OpenApi

end RouteDoc
