import Mathlib.Data.List.Nodup
import RouteDoc.Analysis.Merge
import RouteDoc.Analysis.Template
import RouteDoc.OpenApi.Document
import RouteDoc.Proofs.Entries

/-!
# Parameters of operations

An operation lists what the analysis of its route documents, each name at each location
once, and then the names in the path that are missing. A name in the path is moved there
only after repetitions were left out, so that it may be listed twice.

* `exists_addPathParameters`: what is listed for the names in the path that are missing;
* `mem_pathNames_operationParameters`: the parameters of an operation that stand
  in its path;
* `nodup_parameters_iff`, `parameters_repeat`: when no parameter is listed twice, and one
  that is;
* `describeOperation_declares`: the names in the path are listed as such, and what stands
  in the path is required.
-/

namespace RouteDoc.OpenApi

/-- The names of the parameters that stand in the path. -/
def pathNames (ps : List Parameter) : List String :=
  (ps.filter (·.location == "path")).map (·.name)

/-! ## Names in the path -/

/-- By what a parameter is told from others. -/
def keyOf (p : Parameter) : String × String := (p.name, p.location)

theorem mem_pathNames {ps : List Parameter} {name : String} :
    name ∈ pathNames ps ↔ (name, "path") ∈ ps.map keyOf := by
  simp only [pathNames, keyOf, List.mem_map, List.mem_filter, beq_iff_eq, Prod.mk.injEq]
  exact ⟨fun ⟨p, ⟨hp, hl⟩, hn⟩ => ⟨p, hp, hn, hl⟩, fun ⟨p, hp, hn, hl⟩ => ⟨p, ⟨hp, hl⟩, hn⟩⟩

theorem mem_distinctParameters {seen : List (String × String)} {ps : List Parameter}
    {key : String × String} :
    key ∈ (distinctParameters seen ps).map keyOf ↔ key ∉ seen ∧ key ∈ ps.map keyOf := by
  induction ps generalizing seen with
  | nil => simp [distinctParameters]
  | cons p ps ih =>
    rw [distinctParameters, List.map_cons, List.mem_cons]
    split
    · rename_i h
      have hp : keyOf p ∈ seen := List.contains_iff_mem.mp h
      rw [ih]
      refine and_congr_right fun hkey => (or_iff_right ?_).symm
      rintro rfl
      exact hkey hp
    · rename_i h
      have hp : keyOf p ∉ seen := fun hm => h (List.contains_iff_mem.mpr hm)
      rw [List.map_cons, List.mem_cons, ih]
      change key = keyOf p ∨ key ∉ keyOf p :: seen ∧ _ ↔ _
      rw [List.mem_cons, not_or]
      by_cases hkey : key = keyOf p
      · subst hkey
        simp [hp]
      · simp [hkey]

theorem mem_keys_distinctParameters {ps : List Parameter} {key : String × String} :
    key ∈ (distinctParameters [] ps).map keyOf ↔ key ∈ ps.map keyOf :=
  mem_distinctParameters.trans (and_iff_right List.not_mem_nil)

/-- A name at the location that the operation gives it. -/
def placedKey (names : List String) (key : String × String) : String × String :=
  (key.1, if key.1 ∈ names then "path" else if key.2 = "" then "query" else key.2)

theorem keyOf_placeParameter_eq (names : List String) (p : Parameter) :
    keyOf (placeParameter names p) = placedKey names (keyOf p) := by
  by_cases hname : p.name ∈ names
  · simp [keyOf, placeParameter, placedKey, hname]
  · by_cases hempty : p.location = ""
    · simp [keyOf, placeParameter, placedKey, hname, hempty]
    · simp [keyOf, placeParameter, placedKey, hname, hempty]

/-- A parameter stands in the path if it is named there or was put there. -/
theorem keyOf_placeParameter {names : List String} {p : Parameter} {name : String} :
    keyOf (placeParameter names p) = (name, "path") ↔
      p.name = name ∧ (name ∈ names ∨ p.location = "path") := by
  rw [keyOf_placeParameter_eq]
  simp only [placedKey, keyOf, Prod.mk.injEq]
  refine and_congr_right fun hname => ?_
  subst hname
  by_cases hnamed : p.name ∈ names
  · simp [hnamed]
  · by_cases hempty : p.location = ""
    · simp [hnamed, hempty]
    · simp [hnamed, hempty]

/-- What is listed for a name in the path that is missing. -/
def pathEntry (p : PathParameter) : Parameter := { name := p.name, type := p.type }

theorem pathNames_append (ps qs : List Parameter) :
    pathNames (ps ++ qs) = pathNames ps ++ pathNames qs := by
  simp [pathNames]

theorem pathNames_map_pathEntry (added : List PathParameter) :
    pathNames (added.map pathEntry) = added.map (·.name) := by
  simp [pathNames, List.filter_map, Function.comp_def, pathEntry]

theorem any_eq_true_iff_mem_pathNames {ps : List Parameter} {name : String} :
    (ps.any fun q => q.name == name && q.location == "path") = true ↔ name ∈ pathNames ps := by
  simp [mem_pathNames, keyOf]

/-- After the parameters stands an entry for each name in the path that is missing, each
name once. -/
theorem exists_addPathParameters (ps : List Parameter) (more : List PathParameter) :
    ∃ added : List PathParameter, addPathParameters ps more = ps ++ added.map pathEntry ∧
      (added.map (·.name)).Nodup ∧
      ∀ name, name ∈ added.map (·.name) ↔ name ∈ more.map (·.name) ∧ name ∉ pathNames ps := by
  induction more generalizing ps with
  | nil => exact ⟨[], (List.append_nil ps).symm, List.nodup_nil, by simp⟩
  | cons p more ih =>
    rw [addPathParameters]
    by_cases hthere : p.name ∈ pathNames ps
    · rw [if_pos (any_eq_true_iff_mem_pathNames.mpr hthere)]
      obtain ⟨added, heq, hnodup, hmem⟩ := ih ps
      refine ⟨added, heq, hnodup, fun name => ?_⟩
      rw [hmem, List.map_cons, List.mem_cons]
      refine and_congr_left fun hnot => (or_iff_right ?_).symm
      rintro rfl
      exact hnot hthere
    · rw [if_neg (mt any_eq_true_iff_mem_pathNames.mp hthere)]
      obtain ⟨added, heq, hnodup, hmem⟩ := ih (ps ++ [pathEntry p])
      have hnames : pathNames (ps ++ [pathEntry p]) = pathNames ps ++ [p.name] := by
        rw [pathNames_append]
        rfl
      have hfresh : p.name ∉ added.map (·.name) := by
        intro h
        apply ((hmem _).mp h).2
        simp [hnames]
      refine ⟨p :: added, ?_, List.nodup_cons.mpr ⟨hfresh, hnodup⟩, fun name => ?_⟩
      · show addPathParameters (ps ++ [pathEntry p]) more = _
        rw [heq, List.append_assoc]
        rfl
      · rw [List.map_cons, List.mem_cons, List.map_cons, List.mem_cons, hmem, hnames]
        by_cases hname : name = p.name
        · simp [hname, hthere]
        · simp [hname]

theorem mem_pathNames_addPathParameters {ps : List Parameter} {more : List PathParameter}
    {name : String} :
    name ∈ pathNames (addPathParameters ps more) ↔
      name ∈ pathNames ps ∨ name ∈ more.map (·.name) := by
  obtain ⟨added, heq, -, hmem⟩ := exists_addPathParameters ps more
  rw [heq, pathNames_append, pathNames_map_pathEntry, List.mem_append, hmem]
  by_cases hthere : name ∈ pathNames ps
  · simp [hthere]
  · simp [hthere]

/-- The parameters in the path of an operation are those of the route, and those
that the analysis puts there. -/
theorem mem_pathNames_operationParameters {r : Route} {a : Analysis} {name : String} :
    name ∈ pathNames (operationParameters r a) ↔
      name ∈ r.parameters.map (·.name) ∨ name ∈ pathNames a.parameters := by
  have hplaced : name ∈ pathNames ((distinctParameters [] a.parameters).map
        (placeParameter (r.parameters.map (·.name)))) ↔
      ∃ p ∈ distinctParameters [] a.parameters,
        p.name = name ∧ (name ∈ r.parameters.map (·.name) ∨ p.location = "path") := by
    rw [mem_pathNames, List.map_map, List.mem_map]
    simp only [Function.comp_apply, keyOf_placeParameter]
  have hdistinct : name ∈ pathNames a.parameters ↔
      ∃ p ∈ distinctParameters [] a.parameters, p.name = name ∧ p.location = "path" := by
    rw [mem_pathNames, ← mem_keys_distinctParameters, List.mem_map]
    simp only [keyOf, Prod.mk.injEq]
  rw [operationParameters, mem_pathNames_addPathParameters, hplaced, hdistinct]
  constructor
  · rintro (⟨p, hp, hname, hr | hl⟩ | hr)
    · exact .inl hr
    · exact .inr ⟨p, hp, hname, hl⟩
    · exact .inl hr
  · rintro (hr | ⟨p, hp, hname, hl⟩)
    · exact .inr hr
    · exact .inl ⟨p, hp, hname, .inr hl⟩

/-! ## Repetitions -/

/-- No name at a location is kept twice. -/
theorem nodup_distinctParameters (seen : List (String × String)) (ps : List Parameter) :
    ((distinctParameters seen ps).map keyOf).Nodup := by
  induction ps generalizing seen with
  | nil => exact List.nodup_nil
  | cons p ps ih =>
    rw [distinctParameters]
    split
    · exact ih seen
    · have hnot : keyOf p ∉ (distinctParameters (keyOf p :: seen) ps).map keyOf := fun h =>
        (mem_distinctParameters.mp h).1 List.mem_cons_self
      exact List.nodup_cons.mpr ⟨hnot, ih _⟩

/-- The missing names in the path repeat nothing. -/
theorem nodup_addPathParameters {ps : List Parameter} {more : List PathParameter} :
    ((addPathParameters ps more).map keyOf).Nodup ↔ (ps.map keyOf).Nodup := by
  obtain ⟨added, heq, hnodup, hmem⟩ := exists_addPathParameters ps more
  have hadded : (added.map pathEntry).map keyOf =
      (added.map (·.name)).map fun name => (name, "path") := by
    simp [keyOf, pathEntry]
  rw [heq, List.map_append, hadded, List.nodup_append]
  refine ⟨And.left, fun h => ⟨h, ?_, ?_⟩⟩
  · exact hnodup.map fun _ _ hkey => congrArg Prod.fst hkey
  · rintro key hkey _ hlast rfl
    obtain ⟨name, hname, rfl⟩ := List.mem_map.mp hlast
    exact ((hmem name).mp hname).2 (mem_pathNames.mpr hkey)

/-- Two locations of a name become one if the name is in the path, or if one of them is
empty and the other is what stands for it. -/
theorem placedKey_eq_iff {names : List String} {name l l' : String} (hne : l ≠ l') :
    placedKey names (name, l) = placedKey names (name, l') ↔
      name ∈ names ∨ (l = "" ∧ l' = "query") ∨ (l = "query" ∧ l' = "") := by
  simp only [placedKey, Prod.mk.injEq, true_and]
  by_cases hname : name ∈ names
  · simp only [hname, if_true, true_or]
  · simp only [hname, if_false, false_or]
    by_cases h : l = ""
    · have hl' : l' ≠ "" := fun h' => hne (h.trans h'.symm)
      simp only [h, hl', if_true, if_false, true_and, and_false, or_false]
      exact eq_comm
    · by_cases h' : l' = ""
      · simp only [h, h', if_true, if_false, false_and, and_true, false_or]
      · simp only [h, h', hne, if_false, false_and, and_false, or_false]

/-- No parameter is listed twice exactly where no two locations of a name become one. -/
theorem nodup_operationParameters (r : Route) (a : Analysis) :
    ((operationParameters r a).map keyOf).Nodup ↔
      ∀ p ∈ a.parameters, ∀ q ∈ a.parameters,
        placedKey (r.parameters.map (·.name)) (keyOf p) =
          placedKey (r.parameters.map (·.name)) (keyOf q) → keyOf p = keyOf q := by
  have hkeys : ((distinctParameters [] a.parameters).map
        (placeParameter (r.parameters.map (·.name)))).map keyOf =
      ((distinctParameters [] a.parameters).map keyOf).map
        (placedKey (r.parameters.map (·.name))) := by
    simp only [List.map_map]
    exact List.map_congr_left fun p _ => keyOf_placeParameter_eq _ p
  rw [operationParameters, nodup_addPathParameters, hkeys,
    List.nodup_map_iff_inj_on (nodup_distinctParameters [] a.parameters)]
  simp only [mem_keys_distinctParameters, List.forall_mem_map]

/-! ## The list in the document -/

/-- By what an entry of the list of parameters is told from others. -/
def entryKey (entry : Json) : Option Json × Option Json := (entry.get? "name", entry.get? "in")

@[simp] theorem get?_name_parameterJson (p : Parameter) :
    (parameterJson p).get? "name" = some (.str p.name) := rfl

@[simp] theorem get?_in_parameterJson (p : Parameter) :
    (parameterJson p).get? "in" = some (.str p.location) := rfl

@[simp] theorem get?_required_parameterJson (p : Parameter) :
    (parameterJson p).get? "required" = some (.bool p.required) := rfl

/-- A name and a location as an entry gives them. -/
def entryKeyOf (key : String × String) : Option Json × Option Json :=
  (some (.str key.1), some (.str key.2))

theorem entryKeyOf_injective : Function.Injective entryKeyOf := by
  rintro ⟨name, l⟩ ⟨name', l'⟩ h
  simpa [entryKeyOf] using h

theorem map_entryKey (ps : List Parameter) :
    (ps.map parameterJson).map entryKey = (ps.map keyOf).map entryKeyOf := by
  simp only [List.map_map]
  exact List.map_congr_left fun p _ => rfl

/-- The list of parameters of an operation gives no name twice at one location exactly
where the analysis gives no name of the path two locations, and no other name both an
empty one and the one that stands for it. -/
theorem nodup_parameters_iff (r : Route) (a : Analysis) :
    (((operationParameters r a).map parameterJson).map entryKey).Nodup ↔
      ∀ p ∈ a.parameters, ∀ q ∈ a.parameters, p.name = q.name → p.location ≠ q.location →
        p.name ∉ r.parameters.map (·.name) ∧ ¬(p.location = "" ∧ q.location = "query") := by
  rw [map_entryKey, List.nodup_map_iff entryKeyOf_injective, nodup_operationParameters]
  constructor
  · intro h p hp q hq hname hne
    have hapart : ¬placedKey (r.parameters.map (·.name)) (keyOf p) =
        placedKey (r.parameters.map (·.name)) (keyOf q) := fun hplaced =>
      hne (congrArg Prod.snd (h p hp q hq hplaced))
    rw [keyOf, keyOf, ← hname, placedKey_eq_iff hne, not_or, not_or] at hapart
    exact ⟨hapart.1, hapart.2.1⟩
  · intro h p hp q hq hplaced
    have hname : p.name = q.name := congrArg Prod.fst hplaced
    by_contra hkey
    have hne : p.location ≠ q.location := fun hl => hkey (Prod.ext hname hl)
    rw [keyOf, keyOf, ← hname, placedKey_eq_iff hne] at hplaced
    rcases hplaced with hpath | hquery | hquery
    · exact (h p hp q hq hname hne).1 hpath
    · exact (h p hp q hq hname hne).2 hquery
    · exact (h q hq p hp hname.symm hne.symm).2 hquery.symm

/-- A route with a name in its path. -/
def routeById : Route := { method := "GET", path := "/users/:id", parameters := [{ name := "id" }] }

/-- An answer that gives this name two locations. -/
def twoLocations : Fields :=
  [("parameters", .arr [.obj [("name", .str "id"), ("in", .str "query")],
    .obj [("name", .str "id"), ("in", .str "path")]])]

/-- The analysis of the route refined by this answer. -/
def relocated : Analysis := mergeAnalysis twoLocations (templateAnalysis routeById) routeById.method

/-- A name of the path that an answer gives two locations is listed twice. -/
theorem parameters_repeat :
    ((operationParameters routeById relocated).map parameterJson).map entryKey =
        [(some (.str "id"), some (.str "path")), (some (.str "id"), some (.str "path"))] ∧
      ¬(((operationParameters routeById relocated).map parameterJson).map entryKey).Nodup := by
  have hkeys : (operationParameters routeById relocated).map keyOf =
      [("id", "path"), ("id", "path")] := by decide
  rw [map_entryKey, hkeys]
  refine ⟨rfl, fun h => ?_⟩
  exact absurd (h.of_map entryKeyOf) (by decide)

/-- What the shape of a route gives is listed without repetitions, if the names of the
route differ. -/
theorem nodup_operationParameters_template {r : Route}
    (h : (r.parameters.map (·.name)).Nodup) :
    ((operationParameters r (templateAnalysis r)).map keyOf).Nodup := by
  rw [nodup_operationParameters]
  intro p hp q hq hplaced
  obtain ⟨p', hp', rfl⟩ := List.mem_map.mp hp
  obtain ⟨q', hq', rfl⟩ := List.mem_map.mp hq
  have hname : p'.name = q'.name := congrArg Prod.fst hplaced
  rw [List.inj_on_of_nodup_map h hp' hq' hname]

/-! ## Names in the path stand there -/

/-- A parameter that is named in the path stands there, and if it stands there it is
required. -/
structure InPlace (names : List String) (p : Parameter) : Prop where
  location : p.name ∈ names → p.location = "path"
  required : p.location = "path" → p.required = true

theorem inPlace_placeParameter (names : List String) (p : Parameter) :
    InPlace names (placeParameter names p) where
  location h := by
    have hname : p.name ∈ names := h
    simp [placeParameter, hname]
  required h := by
    simp only [placeParameter] at h ⊢
    rw [h]
    rfl

/-- What is put after the parameters is in its place. -/
theorem inPlace_pathEntry (names : List String) (p : PathParameter) :
    InPlace names (pathEntry p) where
  location _ := rfl
  required _ := rfl

theorem inPlace_operationParameters (r : Route) (a : Analysis) :
    ∀ p ∈ operationParameters r a, InPlace (r.parameters.map (·.name)) p := by
  intro p hp
  obtain ⟨added, heq, -, -⟩ := exists_addPathParameters ((distinctParameters [] a.parameters).map
    (placeParameter (r.parameters.map (·.name)))) r.parameters
  rw [operationParameters, heq, List.mem_append] at hp
  rcases hp with hplaced | hadded
  · obtain ⟨q, -, rfl⟩ := List.mem_map.mp hplaced
    exact inPlace_placeParameter _ q
  · obtain ⟨q, -, rfl⟩ := List.mem_map.mp hadded
    exact inPlace_pathEntry _ q

/-- An operation lists each parameter of its route in the path and as required, whatever
its analysis says of that name, and all that it lists in the path is required. -/
theorem describeOperation_declares (s : Schemas) (id verb : String) (d : DocumentedRoute) :
    ∃ entries, (describeOperation s id verb d).1.toJson.get? "parameters" = some (.arr entries) ∧
      (∀ p ∈ d.route.parameters, ∃ e ∈ entries, e.get? "name" = some (.str p.name) ∧
        e.get? "in" = some (.str "path") ∧ e.get? "required" = some (.bool true)) ∧
      (∀ e ∈ entries, ∀ p ∈ d.route.parameters, e.get? "name" = some (.str p.name) →
        e.get? "in" = some (.str "path") ∧ e.get? "required" = some (.bool true)) ∧
      ∀ e ∈ entries, e.get? "in" = some (.str "path") → e.get? "required" = some (.bool true) := by
  have hplace := inPlace_operationParameters d.route d.analysis
  refine ⟨(operationParameters d.route d.analysis).map parameterJson, rfl, ?_, ?_, ?_⟩
  · intro p hp
    have hname : p.name ∈ pathNames (operationParameters d.route d.analysis) :=
      mem_pathNames_operationParameters.mpr (.inl (List.mem_map_of_mem hp))
    obtain ⟨q, hq, hkey⟩ := List.mem_map.mp (mem_pathNames.mp hname)
    obtain ⟨hname, hlocation⟩ := Prod.mk.inj hkey
    refine ⟨parameterJson q, List.mem_map_of_mem hq, ?_, ?_, ?_⟩
    · simp [hname]
    · simp [hlocation]
    · simp [(hplace q hq).required hlocation]
  · intro e he p hp hname
    obtain ⟨q, hq, rfl⟩ := List.mem_map.mp he
    have hqname : q.name = p.name := by simpa using hname
    have hlocation := (hplace q hq).location (hqname ▸ List.mem_map_of_mem hp)
    simp [hlocation, (hplace q hq).required hlocation]
  · intro e he hin
    obtain ⟨q, hq, rfl⟩ := List.mem_map.mp he
    have hlocation : q.location = "path" := by simpa using hin
    simp [(hplace q hq).required hlocation]

end RouteDoc.OpenApi
