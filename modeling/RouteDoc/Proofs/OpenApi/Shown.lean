import RouteDoc.Proofs.OpenApi.Referenced

/-!
# Schemas that are shown

The schema of the responses of an operation is registered whether or not one of them
shows it. A request registers its schema only where it has a body. So the components of
a document may hold schemas of responses that no operation refers to.

* `Document.RefersTo`, `Shown`: the schemas that operations refer to, and the structures
  for which they have a place;
* `refersTo_iff`: a component is referred to exactly where its structure is shown;
* `assemble_refersTo`, `deletion_unreferenced`: when every component is referred to, and
  one that is not.
-/

namespace RouteDoc.OpenApi

/-- Some operation of a document refers to the schema of a name. -/
def Document.RefersTo (doc : Document) (name : String) : Prop :=
  ∃ path item verb o role, (path, item) ∈ doc.paths ∧ (verb, o) ∈ item ∧
    Json.str (referenceTo name) ∈ references o.toJson role

/-- Some operation has a place for a schema, and its analysis gives one of this
structure. -/
def Shown (ds : List DocumentedRoute) (schema : Fields) : Prop :=
  ∃ path, ∃ verb ∈ singleVerbs, ∃ d role, governing ds path verb = some d ∧
    Slot.shows ⟨path, verb, d⟩ role = true ∧ SchemaUse.schema ⟨d, role⟩ ≠ [] ∧
      Json.canonical (.obj (SchemaUse.schema ⟨d, role⟩)) = Json.canonical (.obj schema)

/-! ## The operations of a document -/

theorem mem_flatten {paths : Entries (Entries Operation)} {path verb : String} {o : Operation} :
    (path, verb, o) ∈ flatten paths ↔ ∃ item, (path, item) ∈ paths ∧ (verb, o) ∈ item := by
  simp only [flatten, List.mem_flatMap, List.mem_map, Prod.mk.injEq]
  constructor
  · rintro ⟨⟨_, item⟩, hitem, _, ho, rfl, rfl, rfl⟩
    exact ⟨item, hitem, ho⟩
  · rintro ⟨item, hitem, ho⟩
    exact ⟨(path, item), hitem, (verb, o), ho, rfl, rfl, rfl⟩

theorem referenceTo_inj {a b : String} : referenceTo a = referenceTo b ↔ a = b :=
  String.append_right_inj _

/-- The references of an operation are the names in its bodies. -/
theorem mem_references {o : Operation} {role : Role} {name : String} :
    Json.str (referenceTo name) ∈ references o.toJson role ↔
      ∃ b ∈ o.bodies role, b.schema = name := by
  rw [references_toJson, List.mem_map]
  simp only [Json.str.injEq, referenceTo_inj]

section

variable {ds : List DocumentedRoute}

/-- A slot of a document is a verb at a path with the route that counts there. -/
theorem mem_slots_iff_governing {s : Slot} :
    s ∈ slots ds ↔ s.verb ∈ singleVerbs ∧ governing ds s.path s.verb = some s.route := by
  rw [mem_slots, mem_governed]
  refine and_iff_right_of_imp fun h => mem_pathsOf.mpr ?_
  obtain ⟨hd, hpath, -⟩ := mem_of_governing h.2
  exact ⟨s.route, hd, hpath⟩

/-- What a slot registers is not empty, and it shows it, save for the schema of
responses of which none has a place for it. -/
theorem mem_uses {s : Slot} {u : SchemaUse} :
    u ∈ s.uses ↔ ∃ role, u = ⟨s.route, role⟩ ∧ u.schema ≠ [] ∧
      (role = .request → s.shows role = true) := by
  have hnonempty : ∀ w : SchemaUse, u ∈ w.nonempty ↔ u = w ∧ u.schema ≠ [] := by
    intro w
    rw [SchemaUse.nonempty]
    split
    · rename_i h
      refine iff_of_false List.not_mem_nil ?_
      rintro ⟨rfl, hne⟩
      exact hne (List.isEmpty_iff.mp h)
    · rename_i h
      refine List.mem_singleton.trans (iff_self_and.mpr ?_)
      rintro rfl
      exact mt List.isEmpty_iff.mpr h
  rw [Slot.uses, List.mem_append, Slot.responseUses, Slot.requestUses, hnonempty]
  constructor
  · rintro (⟨hu, hne⟩ | h)
    · exact ⟨.response, hu, hne, fun hrole => by cases hrole⟩
    · split at h
      · rename_i hverb
        obtain ⟨hu, hne⟩ := (hnonempty _).mp h
        exact ⟨.request, hu, hne, fun _ => hverb⟩
      · cases h
  · rintro ⟨role, hu, hne, hshows⟩
    cases role with
    | response => exact .inl ⟨hu, hne⟩
    | request =>
      have hverb : bodyVerbs.contains s.verb = true := hshows rfl
      rw [if_pos hverb]
      exact .inr ((hnonempty _).mpr ⟨hu, hne⟩)

/-- Structures that are shown do not depend on the order of fields. -/
theorem Shown.congr {schema schema' : Fields}
    (h : Json.canonical (.obj schema) = Json.canonical (.obj schema')) (hs : Shown ds schema) :
    Shown ds schema' := by
  obtain ⟨path, verb, hv, d, role, hd, hshows, hne, hkey⟩ := hs
  exact ⟨path, verb, hv, d, role, hd, hshows, hne, hkey.trans h⟩

/-- A slot that has a place for its schema shows it. -/
theorem shown_of_slot {s : Slot} (hs : s ∈ slots ds) {role : Role} (hshows : s.shows role = true)
    (hne : SchemaUse.schema ⟨s.route, role⟩ ≠ []) : Shown ds (SchemaUse.schema ⟨s.route, role⟩) := by
  obtain ⟨hv, hd⟩ := mem_slots_iff_governing.mp hs
  exact ⟨s.path, s.verb, hv, s.route, role, hd, hshows, hne, rfl⟩

end

/-! ## The components of a document -/

section

variable {ds : List DocumentedRoute} (hds : ∀ d ∈ ds, d.route.method ∈ verbs)
  {info : DocumentInfo} {frameworks : List String}
include hds

/-- The document refers to the names in the bodies of its operations. -/
theorem refersTo_assembled {name : String} :
    (assembled info frameworks ds).RefersTo name ↔
      ∃ r ∈ (describeSlots {} (slots ds)).1, ∃ role, ∃ b ∈ r.2.bodies role, b.schema = name := by
  have hflat := (assembled_paths hds info frameworks).2.1
  simp only [Document.RefersTo, mem_references]
  constructor
  · rintro ⟨path, item, verb, o, role, hitem, ho, hb⟩
    have hmem := hflat ▸ mem_flatten.mpr ⟨item, hitem, ho⟩
    obtain ⟨r, hr, he⟩ := List.mem_map.mp hmem
    obtain rfl : r.2 = o := congrArg (·.2.2) he
    exact ⟨r, hr, role, hb⟩
  · rintro ⟨r, hr, role, hb⟩
    have hmem := List.mem_map_of_mem (f := fun r => (r.1.path, verbEntry r)) hr
    rw [← hflat] at hmem
    obtain ⟨item, hitem, ho⟩ := mem_flatten.mp hmem
    exact ⟨r.1.path, item, Text.lower r.1.verb, r.2, role, hitem, ho, hb⟩

theorem registered_eq : registered ds = (slots ds).flatMap Slot.uses := by
  rw [registered, orderedPaths_place hds]
  rfl

theorem schemas_assembled :
    (assembled info frameworks ds).schemas = components (registered ds) := by
  rw [(assembled_paths hds info frameworks).1, (describeSlots_registerAll {} (slots ds)).1,
    registered_eq hds]
  rfl

/-- A component is referred to exactly where its structure is shown. -/
theorem refersTo_iff {name : String} {schema : Fields}
    (h : (name, schema) ∈ (assembled info frameworks ds).schemas) :
    (assembled info frameworks ds).RefersTo name ↔ Shown ds schema := by
  obtain ⟨hsound, -, hnames, -⟩ := Schemas.sound_empty.registerAll (registered ds)
  have hbodies := (describeSlots_registerAll {} (slots ds)).2
  rw [← registered_eq hds] at hbodies
  rw [schemas_assembled hds] at h
  have hkept : (Schemas.registerAll {} (registered ds)).2.Names schema name :=
    ⟨schema, (Entries.mem_iff_get? hsound.nodup_taken).mp h, rfl⟩
  rw [refersTo_assembled hds]
  constructor
  · rintro ⟨⟨s, o⟩, hr, role, b, hb, rfl⟩
    obtain ⟨hs, p, rfl⟩ := mem_describeSlots hr
    obtain ⟨hshows, hne⟩ := (bodies_describe p s role).2.mp (List.ne_nil_of_mem hb)
    have hsame := (hsound.name_eq_iff (hnames _ (hbodies _ hr role b hb)) hkept).mp rfl
    exact (shown_of_slot hs hshows hne).congr hsame
  · rintro ⟨path, verb, hv, d, role, hd, hshows, hne, hkey⟩
    have hs : (⟨path, verb, d⟩ : Slot) ∈ slots ds := mem_slots_iff_governing.mpr ⟨hv, hd⟩
    rw [← map_fst_describeSlots {} (slots ds)] at hs
    obtain ⟨⟨s, o⟩, hr, hslot⟩ := List.mem_map.mp hs
    obtain rfl : s = ⟨path, verb, d⟩ := hslot
    obtain ⟨-, p, rfl⟩ := mem_describeSlots hr
    obtain ⟨b, hb⟩ := List.exists_mem_of_ne_nil _
      ((bodies_describe p ⟨path, verb, d⟩ role).2.mpr ⟨hshows, hne⟩)
    exact ⟨_, hr, role, b, hb,
      (hsound.name_eq_iff (hnames _ (hbodies _ hr role b hb)) hkept).mpr hkey⟩

variable (info frameworks) in
/-- Every component is a schema of a slot, and every schema of a slot has the structure
of one. -/
theorem components_registered :
    (∀ name schema, (name, schema) ∈ (assembled info frameworks ds).schemas →
      ∃ s ∈ slots ds, ∃ u ∈ s.uses, u.schema = schema) ∧
    ∀ s ∈ slots ds, ∀ u ∈ s.uses, ∃ name schema,
      (name, schema) ∈ (assembled info frameworks ds).schemas ∧
        Json.canonical (.obj schema) = Json.canonical (.obj u.schema) := by
  obtain ⟨hsound, -, hnames, hfrom⟩ := Schemas.sound_empty.registerAll (registered ds)
  rw [schemas_assembled hds]
  constructor
  · intro name schema h
    rcases hfrom _ h with h | ⟨u, hu, rfl⟩
    · cases h
    · obtain ⟨s, hs, hu⟩ := List.mem_flatMap.mp (registered_eq hds ▸ hu)
      exact ⟨s, hs, u, hu, rfl⟩
  · intro s hs u hu
    have hmem : u ∈ registered ds := registered_eq hds ▸ List.mem_flatMap.mpr ⟨s, hs, hu⟩
    rw [← Schemas.map_fst_registerAll {} (registered ds)] at hmem
    obtain ⟨⟨u', name⟩, hx, rfl⟩ := List.mem_map.mp hmem
    obtain ⟨schema, hget, hkey⟩ := hnames _ hx
    exact ⟨name, schema, (Entries.mem_iff_get? hsound.nodup_taken).mpr hget, hkey⟩

/-- Every component is referred to exactly where the structure of each schema of
responses is shown. -/
theorem forall_refersTo_iff :
    (∀ name ∈ (assembled info frameworks ds).schemas.map (·.1),
        (assembled info frameworks ds).RefersTo name) ↔
      ∀ s ∈ slots ds, s.route.analysis.responseSchema ≠ [] →
        Shown ds s.route.analysis.responseSchema := by
  obtain ⟨hfrom, hkept⟩ := components_registered hds info frameworks
  constructor
  · intro h s hs hne
    obtain ⟨name, schema, hmem, hkey⟩ := hkept s hs ⟨s.route, .response⟩
      (mem_uses.mpr ⟨.response, rfl, hne, nofun⟩)
    exact ((refersTo_iff hds hmem).mp (h name (List.mem_map_of_mem hmem))).congr hkey
  · intro h name hname
    obtain ⟨⟨_, schema⟩, hmem, rfl⟩ := List.mem_map.mp hname
    obtain ⟨s, hs, u, hu, rfl⟩ := hfrom _ _ hmem
    obtain ⟨role, rfl, hne, hshows⟩ := mem_uses.mp hu
    refine (refersTo_iff hds hmem).mpr ?_
    cases role with
    | response => exact h s hs hne
    | request => exact shown_of_slot hs (hshows rfl) hne

end

/-- Routes with known verbs have a document. A component of it is referred to exactly
where some operation has a place for a schema of its structure. So each is, exactly where
that holds of the schema of responses of every route that counts: no schema of a request
is kept without use. -/
theorem assemble_refersTo (info : DocumentInfo) (frameworks : List String)
    {ds : List DocumentedRoute} (hds : ∀ d ∈ ds, d.route.method ∈ verbs) :
    ∃ doc reports, assemble info frameworks ds = .ok (doc, reports) ∧
      (∀ name schema, (name, schema) ∈ doc.schemas → (doc.RefersTo name ↔ Shown ds schema)) ∧
      ((∀ name ∈ doc.schemas.map (·.1), doc.RefersTo name) ↔
        ∀ path, ∀ verb ∈ singleVerbs, ∀ d, governing ds path verb = some d →
          d.analysis.responseSchema ≠ [] → Shown ds d.analysis.responseSchema) := by
  refine ⟨_, _, assemble_eq hds info frameworks, fun _ _ h => refersTo_iff hds h, ?_⟩
  rw [forall_refersTo_iff hds]
  exact ⟨fun h path verb hv d hd => h ⟨path, verb, d⟩ (mem_slots_iff_governing.mpr ⟨hv, hd⟩),
    fun h s hs => h s.path s.verb (mem_slots_iff_governing.mp hs).1 s.route
      (mem_slots_iff_governing.mp hs).2⟩

/-- A route that deletes, documented from its shape. -/
def deletion : DocumentedRoute := templated "DELETE" "/users/:id"

theorem shows_deletion (path : String) (role : Role) :
    Slot.shows ⟨path, "DELETE", deletion⟩ role = false := by
  cases role with
  | request => rfl
  | response => rfl

/-- The deletion has a schema for the items that it does not answer with. Another route
answers with them. -/
theorem assemble_refersTo_deletion :
    (∀ d ∈ [deletion, templated "GET" "/users/:id"], d.route.method ∈ verbs) ∧
      deletion.analysis.responseSchema ≠ [] ∧
      ∃ doc reports,
        assemble {} [] [deletion, templated "GET" "/users/:id"] = .ok (doc, reports) ∧
          ∀ name ∈ doc.schemas.map (·.1), doc.RefersTo name := by
  have hds : ∀ d ∈ [deletion, templated "GET" "/users/:id"], d.route.method ∈ verbs := by decide
  obtain ⟨doc, reports, hok, -, hall⟩ := assemble_refersTo {} [] hds
  refine ⟨hds, nofun, doc, reports, hok, hall.mpr fun path verb _ d hd _ => ?_⟩
  have hget : governing [deletion, templated "GET" "/users/:id"] "/users/\x7bid\x7d" "GET" =
      some (templated "GET" "/users/:id") := by rfl
  have hsame : d.analysis.responseSchema = itemSchema := by
    have hmem := (mem_of_governing hd).1
    simp only [List.mem_cons, List.not_mem_nil, or_false] at hmem
    rcases hmem with rfl | rfl <;> rfl
  rw [hsame]
  exact ⟨_, "GET", by decide, _, .response, hget, by decide, nofun, rfl⟩

/-- The one component of the document of a deletion is referred to nowhere. -/
theorem deletion_unreferenced :
    ∃ doc reports, assemble {} [] [deletion] = .ok (doc, reports) ∧
      doc.schemas.map (·.1) = ["UserResponse"] ∧ ¬doc.RefersTo "UserResponse" := by
  have hds : ∀ d ∈ [deletion], d.route.method ∈ verbs := by decide
  have hpaths : pathsOf (place [deletion]) = ["/users/\x7bid\x7d"] := by
    rw [pathsOf, sortedDistinct, place, List.map_singleton, List.map_singleton,
      List.mergeSort_singleton]
    rfl
  have hslots : slots [deletion] = [⟨"/users/\x7bid\x7d", "DELETE", deletion⟩] := by
    rw [slots, governedPaths, hpaths]
    rfl
  have hschemas : (assembled {} [] [deletion]).schemas = [("UserResponse", itemSchema)] := by
    rw [schemas_assembled hds, registered_eq hds, hslots]
    rfl
  refine ⟨_, _, assemble_eq hds {} [], by rw [hschemas]; rfl, fun h => ?_⟩
  obtain ⟨path, verb, hv, d, role, hd, hshows, -⟩ :=
    (refersTo_iff hds (hschemas ▸ List.mem_cons_self)).mp h
  obtain ⟨hmem, -, hmethod⟩ := mem_of_governing hd
  obtain rfl := List.mem_singleton.mp hmem
  obtain rfl : "DELETE" = verb := hmethod.resolve_right fun hany => absurd hany.1 (by decide)
  rw [shows_deletion] at hshows
  cases hshows

end RouteDoc.OpenApi
