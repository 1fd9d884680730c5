import RouteDoc.Analysis.Merge
import RouteDoc.Analysis.Template
import RouteDoc.Proofs.Analysis.Checked
import RouteDoc.Proofs.Text.Trimmed

/-!
# Refined analyses

Whatever the service answers, the refined analysis of a route lacks nothing, and the
same answer does not refine it any further.

* `usableText_ne_empty`, `usableTags_ne_nil`, `usableSchema_ne_nil`,
  `usableStatusCodes_ne_nil`: what is taken over from an answer is not empty;
* `Analysis.Complete`: an analysis that lacks nothing, as the one that follows from
  the shape of a route (`complete_templateAnalysis`);
* `Analysis.Complete.merge`, `mergeAnalysis_complete`: refining keeps it complete;
* `mergeAnalysis_mergeAnalysis`, `mergeAnalysis_idempotent`: an answer that was taken
  over before changes nothing.
-/

namespace RouteDoc

attribute [ext] Analysis

/-! ## What is taken over -/

theorem usableText_ne_empty {v : Option Json} {text : String} (h : usableText v = some text) :
    text ≠ "" := by
  unfold usableText at h
  split at h
  · rename_i s
    split at h
    · cases h
    · rename_i hblank
      obtain rfl := Option.some.inj h
      exact mt Text.trim_eq_empty.mp hblank
  · cases h

theorem mapAll_eq_some {α β : Type} {f : α → Option β} {xs : List α} {ys : List β} :
    mapAll f xs = some ys ↔ xs.map f = ys.map some := by
  induction xs generalizing ys with
  | nil => cases ys <;> simp [mapAll]
  | cons x xs ih =>
    rw [mapAll]
    cases ys with
    | nil => split <;> simp
    | cons y ys =>
      simp only [List.map_cons, List.cons.injEq, ← ih]
      split <;> simp_all

theorem usableTags_ne_nil {v : Option Json} {tags : List String} (h : usableTags v = some tags) :
    tags ≠ [] := by
  unfold usableTags at h
  split at h
  · cases h
  · rename_i ts hne
    rintro rfl
    have hmap := mapAll_eq_some.mp h
    rw [List.map_nil, List.map_eq_nil_iff] at hmap
    exact hne hmap
  · cases h

theorem usableSchema_ne_nil {v : Option Json} {schema : Fields} (h : usableSchema v = some schema) :
    schema ≠ [] := by
  unfold usableSchema at h
  split at h
  · cases h
  · rename_i fields hne
    obtain rfl := Option.some.inj h
    rintro rfl
    exact hne rfl
  · cases h

theorem usableStatusCodes_ne_nil {v : Option Json} {codes : Entries String}
    (h : usableStatusCodes v = some codes) : codes ≠ [] := by
  unfold usableStatusCodes at h
  split at h
  · split at h
    · cases h
    · rename_i hne
      obtain rfl := Option.some.inj h
      exact hne
  · cases h

/-- What holds of all that may be taken over, and of the value in its place, holds of
the outcome. -/
theorem getD_of_forall {α : Type} {P : α → Prop} {o : Option α} {preset : α}
    (h : ∀ a, o = some a → P a) (hpreset : P preset) : P (o.getD preset) := by
  cases o with
  | none => exact hpreset
  | some a => exact h a rfl

/-- Taking a value over again does not change the outcome. -/
theorem getD_getD {α : Type} (o : Option α) (preset : α) :
    o.getD (o.getD preset) = o.getD preset := by
  rw [← Option.getD_or, Option.or_self]

/-! ## Completed parameters -/

/-- The parameters of a baseline whose names are missing. -/
def missingParameters (ps bs : List Parameter) : List Parameter :=
  bs.filter fun b => !(ps.any (·.name == b.name))

theorem completeParameters_eq (ps bs : List Parameter) :
    completeParameters ps bs = ps ++ missingParameters ps bs := rfl

theorem mem_missingParameters {ps bs : List Parameter} {b : Parameter} :
    b ∈ missingParameters ps bs ↔ b ∈ bs ∧ b.name ∉ ps.map (·.name) := by
  simp [missingParameters]

/-- Completed parameters have the names that were there and those of the baseline. -/
theorem mem_names_completeParameters {ps bs : List Parameter} {name : String} :
    name ∈ (completeParameters ps bs).map (·.name) ↔
      name ∈ ps.map (·.name) ∨ name ∈ bs.map (·.name) := by
  rw [completeParameters_eq, List.map_append, List.mem_append]
  constructor
  · rintro (hps | hmissing)
    · exact .inl hps
    · obtain ⟨b, hb, rfl⟩ := List.mem_map.mp hmissing
      exact .inr (List.mem_map_of_mem (mem_missingParameters.mp hb).1)
  · rintro (hps | hbs)
    · exact .inl hps
    · by_cases hthere : name ∈ ps.map (·.name)
      · exact .inl hthere
      · obtain ⟨b, hb, rfl⟩ := List.mem_map.mp hbs
        exact .inr (List.mem_map_of_mem (mem_missingParameters.mpr ⟨hb, hthere⟩))

/-- Of parameters that are there none is missing. -/
theorem missingParameters_self (ps : List Parameter) : missingParameters ps ps = [] := by
  refine List.eq_nil_iff_forall_not_mem.mpr fun p hp => ?_
  obtain ⟨hmem, hnot⟩ := mem_missingParameters.mp hp
  exact hnot (List.mem_map_of_mem hmem)

theorem missingParameters_append (ps bs cs : List Parameter) :
    missingParameters ps (bs ++ cs) = missingParameters ps bs ++ missingParameters ps cs :=
  List.filter_append bs cs

theorem missingParameters_missingParameters (ps bs : List Parameter) :
    missingParameters ps (missingParameters ps bs) = missingParameters ps bs := by
  simp [missingParameters]

theorem completeParameters_self (ps : List Parameter) : completeParameters ps ps = ps := by
  rw [completeParameters_eq, missingParameters_self, List.append_nil]

/-- Parameters that were completed before are not put there again. -/
theorem completeParameters_completeParameters (ps bs : List Parameter) :
    completeParameters ps (completeParameters ps bs) = completeParameters ps bs := by
  rw [completeParameters_eq, completeParameters_eq, missingParameters_append,
    missingParameters_self, missingParameters_missingParameters, List.nil_append]

/-! ## The refined analysis -/

section

variable (payload : Fields) (b : Analysis) (method : String)

theorem parameters_mergeAnalysis :
    (mergeAnalysis payload b method).parameters =
      completeParameters ((usableParameters (payload.get? "parameters")).getD b.parameters)
        b.parameters := rfl

theorem requestSchema_mergeAnalysis :
    (mergeAnalysis payload b method).requestSchema =
      if method ∈ bodyVerbs then (usableSchema (payload.get? "requestSchema")).or b.requestSchema
      else none := by
  simp only [mergeAnalysis, List.contains_iff_mem]
  cases usableSchema (payload.get? "requestSchema") <;> rfl

/-- The sample that an answer gives under a name. -/
def answeredSample (name : String) : Option Json → Option Json
  | some (.obj fields) => Entries.get? fields name
  | _ => none

theorem examples_mergeAnalysis :
    (mergeAnalysis payload b method).examples =
      { request := (answeredSample "request" (payload.get? "examples")).getD b.examples.request
        response :=
          (answeredSample "response" (payload.get? "examples")).getD b.examples.response } := by
  simp only [mergeAnalysis]
  split
  · rename_i fields h
    rw [h]
    rfl
  · rename_i hne
    have hnone : ∀ name, answeredSample name (payload.get? "examples") = none := by
      intro name
      unfold answeredSample
      split
      · rename_i fields h
        exact absurd h (hne fields)
      · rfl
    rw [hnone, hnone]
    rfl

/-- An answer that refined an analysis before does not change it. -/
theorem mergeAnalysis_mergeAnalysis :
    mergeAnalysis payload (mergeAnalysis payload b method) method =
      mergeAnalysis payload b method := by
  refine Analysis.ext (getD_getD _ _) (getD_getD _ _) (getD_getD _ _) ?parameters ?requestSchema
    (getD_getD _ _) (getD_getD _ _) ?examples
  case parameters =>
    -- Without parameters in the answer there is nothing to complete. With some, what they
    -- lack stands after them since the first time.
    simp only [parameters_mergeAnalysis]
    cases usableParameters (payload.get? "parameters") with
    | none => simp only [Option.getD_none, completeParameters_self]
    | some ps => simp only [Option.getD_some, completeParameters_completeParameters]
  case requestSchema =>
    simp only [requestSchema_mergeAnalysis]
    split
    · rw [← Option.or_assoc, Option.or_self]
    · rfl
  case examples =>
    simp only [examples_mergeAnalysis, getD_getD]

/-- An answer without fields changes nothing, unless a request schema stands where no
body is sent. -/
theorem mergeAnalysis_nil (h : method ∉ bodyVerbs → b.requestSchema = none) :
    mergeAnalysis [] b method = b := by
  refine Analysis.ext rfl rfl rfl (completeParameters_self b.parameters) ?requestSchema rfl rfl rfl
  rw [requestSchema_mergeAnalysis]
  split
  · rfl
  · rename_i hmethod
    exact (h hmethod).symm

end

/-! ## Nothing is lacking -/

/-- An analysis that says all that the documentation of a route needs. -/
structure Analysis.Complete (a : Analysis) (r : Route) : Prop where
  summary : a.summary ≠ ""
  description : a.description ≠ ""
  tags : a.tags ≠ []
  statusCodes : a.statusCodes ≠ []
  responseSchema : a.responseSchema ≠ []
  /-- Where a body is sent, it has a schema. -/
  body : r.method ∈ bodyVerbs → ∃ schema, a.requestSchema = some schema ∧ schema ≠ []
  /-- Where none is sent, it has none. -/
  bodyless : r.method ∉ bodyVerbs → a.requestSchema = none
  /-- Each parameter of the route is documented. -/
  parameters : ∀ p ∈ r.parameters, ∃ q ∈ a.parameters, q.name = p.name

theorem templateSummary_ne_empty (r : Route) : templateSummary r ≠ "" := by
  unfold templateSummary
  dsimp only
  split
  · split <;> simp [toString]
  all_goals simp [toString]

theorem templateDescription_ne_empty (r : Route) : templateDescription r ≠ "" := by
  unfold templateDescription
  dsimp only
  split
  · split <;> simp [toString]
  all_goals simp [toString]

theorem describedBy_ne_empty (r : Route) : describedBy r ≠ "" := by
  unfold describedBy
  split
  · rename_i comment _
    split
    · exact templateDescription_ne_empty r
    · rename_i hne
      exact mt String.isEmpty_iff.mpr hne
  · exact templateDescription_ne_empty r

theorem requestSchema_templateAnalysis {r : Route} (h : r.method ∉ bodyVerbs) :
    (templateAnalysis r).requestSchema = none := by
  show templateRequestSchema r = none
  rw [templateRequestSchema, if_neg (mt List.contains_iff_mem.mp h)]

/-- The shape of a route gives a complete analysis. -/
theorem complete_templateAnalysis (r : Route) : (templateAnalysis r).Complete r where
  summary := templateSummary_ne_empty r
  description := describedBy_ne_empty r
  tags := List.cons_ne_nil _ _
  statusCodes := List.cons_ne_nil _ _
  responseSchema := by
    show templateResponseSchema r ≠ []
    unfold templateResponseSchema
    split
    · exact List.cons_ne_nil _ _
    · exact List.cons_ne_nil _ _
  body h := by
    have hschema : (templateAnalysis r).requestSchema = some _ :=
      if_pos (List.contains_iff_mem.mpr h)
    exact ⟨_, hschema, List.cons_ne_nil _ _⟩
  bodyless := requestSchema_templateAnalysis
  parameters p hp := ⟨_, List.mem_map_of_mem hp, rfl⟩

/-- Refining keeps an analysis complete. -/
theorem Analysis.Complete.merge {b : Analysis} {r : Route} (hb : b.Complete r)
    (payload : Fields) : (mergeAnalysis payload b r.method).Complete r where
  summary := getD_of_forall (fun _ => usableText_ne_empty) hb.summary
  description := getD_of_forall (fun _ => usableText_ne_empty) hb.description
  tags := getD_of_forall (fun _ => usableTags_ne_nil) hb.tags
  statusCodes := getD_of_forall (fun _ => usableStatusCodes_ne_nil) hb.statusCodes
  responseSchema := getD_of_forall (fun _ => usableSchema_ne_nil) hb.responseSchema
  body h := by
    rw [requestSchema_mergeAnalysis, if_pos h]
    cases hschema : usableSchema (payload.get? "requestSchema") with
    | none => exact hb.body h
    | some schema => exact ⟨schema, rfl, usableSchema_ne_nil hschema⟩
  bodyless h := by rw [requestSchema_mergeAnalysis, if_neg h]
  parameters p hp := by
    obtain ⟨q, hq, hname⟩ := hb.parameters p hp
    have hnames : p.name ∈ (mergeAnalysis payload b r.method).parameters.map (·.name) :=
      mem_names_completeParameters.mpr (.inr (List.mem_map.mpr ⟨q, hq, hname⟩))
    exact List.mem_map.mp hnames

/-- Whatever an answer holds, the fields of the analysis of a route that it refines pass
their check and give this analysis, and it is complete. -/
theorem mergeAnalysis_complete (r : Route) (payload : Fields) :
    Analysis.check (mergeAnalysis payload (templateAnalysis r) r.method).toJson =
        .valid (mergeAnalysis payload (templateAnalysis r) r.method) ∧
      (mergeAnalysis payload (templateAnalysis r) r.method).Complete r :=
  ⟨Analysis.check_toJson _, (complete_templateAnalysis r).merge payload⟩

/-- The analysis of a route stays as it is under an answer without fields, and once it
was refined by an answer it stays as it is under the same answer. -/
theorem mergeAnalysis_idempotent (r : Route) :
    mergeAnalysis [] (templateAnalysis r) r.method = templateAnalysis r ∧
      ∀ payload, mergeAnalysis payload (mergeAnalysis payload (templateAnalysis r) r.method)
        r.method = mergeAnalysis payload (templateAnalysis r) r.method :=
  ⟨mergeAnalysis_nil _ _ requestSchema_templateAnalysis,
    fun payload => mergeAnalysis_mergeAnalysis payload _ _⟩

end RouteDoc
