import RouteDoc.Analysis.Template
import RouteDoc.Proofs.FileTree.Path
import RouteDoc.Proofs.OpenApi.Registered
import RouteDoc.Proofs.OpenApi.Templated

/-!
# References to schemas

Operations refer to schemas by their names. The schemas of all operations are
registered in one run, in the order in which the operations are described.

* `Slot.uses`, `registered`: the schemas that a slot and a whole document register;
* `describeSlots_registerAll`: each body of an operation has the name that its schema got;
* `resolve`: what a reference within a document leads to;
* `assemble_references`: every reference leads to a schema alike to that of the
  analysis it came from.
-/

namespace RouteDoc

namespace Json

/-- The value at a place of objects within objects. -/
def at? (v : Json) : List String → Option Json
  | [] => some v
  | name :: names => (v.get? name).bind fun w => w.at? names

/-- The fields of an object. -/
def fieldsOf : Json → Fields
  | .obj fields => fields
  | _ => []

end Json

namespace OpenApi

/-! ## The schemas of an operation -/

/-- A schema, unless it is empty. -/
def SchemaUse.nonempty (u : SchemaUse) : List SchemaUse := if u.schema.isEmpty then [] else [u]

/-- The schema of the responses of a slot. -/
def Slot.responseUses (s : Slot) : List SchemaUse := SchemaUse.nonempty ⟨s.route, .response⟩

/-- The schema of the request of a slot, if its verb carries a body. -/
def Slot.requestUses (s : Slot) : List SchemaUse :=
  if bodyVerbs.contains s.verb then SchemaUse.nonempty ⟨s.route, .request⟩ else []

/-- The schemas of a slot in the order in which they are registered. -/
def Slot.uses (s : Slot) : List SchemaUse := s.responseUses ++ s.requestUses

/-- The bodies of an operation: the one of its request, or those of its responses. -/
def Operation.bodies (o : Operation) : Role → List Body
  | .request => o.body.toList
  | .response => o.responses.filterMap (·.2.body)

theorem route_of_mem_uses {s : Slot} {u : SchemaUse} (h : u ∈ s.uses) : u.route = s.route := by
  have hnonempty : ∀ {w : SchemaUse}, u ∈ w.nonempty → u = w := by
    intro w hw
    unfold SchemaUse.nonempty at hw
    split at hw
    · cases hw
    · exact List.mem_singleton.mp hw
  rw [Slot.uses, List.mem_append] at h
  rcases h with h | h
  · rw [hnonempty h]
  · unfold Slot.requestUses at h
    split at h
    · rw [hnonempty h]
    · cases h

/-- The name that the first of some schemas gets. -/
def Schemas.firstName (s : Schemas) (uses : List SchemaUse) : Option String :=
  (s.registerAll uses).1.head?.map (·.2)

theorem referNonempty_eq (s : Schemas) (u : SchemaUse) :
    referNonempty s u.route.route.path u.schema u.role.suffix =
      (s.firstName u.nonempty, (s.registerAll u.nonempty).2) := by
  rw [referNonempty, Schemas.firstName, SchemaUse.nonempty]
  split <;> rfl

theorem isSome_firstName_nonempty (s : Schemas) (u : SchemaUse) :
    (s.firstName u.nonempty).isSome = true ↔ u.schema ≠ [] := by
  rw [Schemas.firstName, SchemaUse.nonempty]
  split
  · rename_i h
    exact iff_of_false Bool.false_ne_true (not_not.mpr (List.isEmpty_iff.mp h))
  · rename_i h
    exact iff_of_true rfl (mt List.isEmpty_iff.mpr h)

theorem mem_registerAll_nonempty {s : Schemas} {u : SchemaUse} {name : String}
    (h : s.firstName u.nonempty = some name) : (u, name) ∈ (s.registerAll u.nonempty).1 := by
  unfold Schemas.firstName SchemaUse.nonempty at h
  unfold SchemaUse.nonempty
  split at h
  · cases h
  · rename_i hne
    rw [if_neg hne]
    obtain rfl := Option.some.inj h
    exact List.mem_cons_self

/-- Describing the operation of a slot registers its schemas; the operation has their
names in its responses and its body. -/
theorem describe_schemas (p : Progress) (s : Slot) :
    (p.describe s).2.schemas = (p.schemas.registerAll s.uses).2 ∧
      (p.describe s).1.responses =
        operationResponses s.route.analysis (p.schemas.firstName s.responseUses) ∧
      (p.describe s).1.body =
        ((p.schemas.registerAll s.responseUses).2.firstName s.requestUses).map fun name =>
          { schema := name, sample := usableSample s.route.analysis.examples.request } := by
  have hresponse := referNonempty_eq p.schemas ⟨s.route, .response⟩
  have hrequest : ∀ t : Schemas, (if bodyVerbs.contains s.verb then
        referNonempty t s.route.route.path (s.route.analysis.requestSchema.getD []) "Request"
      else (none, t)) = (t.firstName s.requestUses, (t.registerAll s.requestUses).2) := by
    intro t
    rw [Slot.requestUses]
    split
    · exact referNonempty_eq t ⟨s.route, .request⟩
    · rfl
  rw [Slot.uses, Schemas.registerAll_append]
  unfold Progress.describe describeOperation
  dsimp only [SchemaUse.schema, Role.suffix] at hresponse ⊢
  rw [hresponse, hrequest]
  exact ⟨rfl, rfl, rfl⟩

/-- Whether the operation of a slot has a place for a schema: a request with a body, or a
response of success other than the one without a body. -/
def Slot.shows (s : Slot) : Role → Bool
  | .request => bodyVerbs.contains s.verb
  | .response => s.route.analysis.statusCodes.any fun c =>
    c.1.toList.head? == some '2' && c.1 != "204"

/-- The bodies of responses show the schema, those of success that have one. -/
theorem responseBodies_spec (a : Analysis) (schema : Option String) :
    (∀ b ∈ (operationResponses a schema).filterMap (·.2.body), schema = some b.schema) ∧
      ((operationResponses a schema).filterMap (·.2.body) ≠ [] ↔
        a.statusCodes.any (fun c => c.1.toList.head? == some '2' && c.1 != "204") = true ∧
          schema.isSome = true) := by
  have hbody : ∀ c : String × String,
      (∀ b, (response a schema c.1 c.2).body = some b → schema = some b.schema) ∧
        ((response a schema c.1 c.2).body.isSome = true ↔
          (c.1.toList.head? == some '2' && c.1 != "204") = true ∧ schema.isSome = true) := by
    intro c
    rw [response]
    split
    · rename_i h
      refine ⟨fun b hb => ?_, by rw [Option.isSome_map, and_iff_right h]⟩
      obtain ⟨name, hname, rfl⟩ := Option.map_eq_some_iff.mp hb
      exact hname
    · rename_i h
      exact ⟨fun _ hb => absurd hb (Option.some_ne_none _).symm,
        iff_of_false Bool.false_ne_true fun hand => h hand.1⟩
  have hperm := List.mergeSort_perm a.statusCodes fun x y => x.1 ≤ y.1
  rw [Ne, List.filterMap_eq_nil_iff, operationResponses]
  split
  · rename_i h
    rw [h] at hperm
    rw [List.nil_perm.mp hperm]
    simp
  · rename_i codes _
    constructor
    · intro b hb
      obtain ⟨r, hr, hb⟩ := List.mem_filterMap.mp hb
      obtain ⟨c, -, rfl⟩ := List.mem_map.mp hr
      exact (hbody c).1 b hb
    · simp only [List.forall_mem_map, not_forall, ← Ne.eq_def, Option.ne_none_iff_isSome, hbody,
        List.any_eq_true, hperm.mem_iff, exists_prop]
      exact ⟨fun ⟨c, hc, hshow, hsome⟩ => ⟨⟨c, hc, hshow⟩, hsome⟩,
        fun ⟨⟨c, hc, hshow⟩, hsome⟩ => ⟨c, hc, hshow, hsome⟩⟩

/-- Each body of an operation has the name that its schema got. There is one if there is
a place for it and the schema is not empty. -/
theorem bodies_describe (p : Progress) (s : Slot) (role : Role) :
    (∀ b ∈ (p.describe s).1.bodies role,
        (⟨s.route, role⟩, b.schema) ∈ (p.schemas.registerAll s.uses).1) ∧
      ((p.describe s).1.bodies role ≠ [] ↔
        s.shows role = true ∧ SchemaUse.schema ⟨s.route, role⟩ ≠ []) := by
  obtain ⟨-, hresponses, hbody⟩ := describe_schemas p s
  rw [Slot.uses, Schemas.registerAll_append]
  cases role with
  | response =>
    obtain ⟨hname, hne⟩ := responseBodies_spec s.route.analysis
      (p.schemas.firstName s.responseUses)
    rw [Operation.bodies, hresponses, hne, Slot.responseUses, isSome_firstName_nonempty]
    exact ⟨fun b hb => List.mem_append_left _ (mem_registerAll_nonempty (hname b hb)), Iff.rfl⟩
  | request =>
    rw [Operation.bodies, hbody, Ne, Option.toList_eq_nil_iff, ← Ne.eq_def,
      Option.ne_none_iff_isSome, Option.isSome_map, Slot.shows, Slot.requestUses]
    split
    · rename_i hverb
      rw [isSome_firstName_nonempty, and_iff_right hverb]
      refine ⟨fun b hb => List.mem_append_right _ ?_, Iff.rfl⟩
      obtain ⟨name, hname, rfl⟩ := Option.map_eq_some_iff.mp (Option.mem_toList.mp hb)
      exact mem_registerAll_nonempty hname
    · rename_i hverb
      exact ⟨List.forall_mem_nil _, iff_of_false Bool.false_ne_true fun h => hverb h.1⟩

/-- Operations one after another register the schemas of their slots in one run, and each
body has the name that its schema got in it. -/
theorem describeSlots_registerAll (p : Progress) (ss : List Slot) :
    (describeSlots p ss).2.schemas = (p.schemas.registerAll (ss.flatMap Slot.uses)).2 ∧
      ∀ r ∈ (describeSlots p ss).1, ∀ role, ∀ b ∈ r.2.bodies role,
        (⟨r.1.route, role⟩, b.schema) ∈ (p.schemas.registerAll (ss.flatMap Slot.uses)).1 := by
  induction ss generalizing p with
  | nil => exact ⟨rfl, List.forall_mem_nil _⟩
  | cons s ss ih =>
    obtain ⟨hschemas, hbodies⟩ := ih (p.describe s).2
    rw [(describe_schemas p s).1] at hschemas hbodies
    rw [List.flatMap_cons, Schemas.registerAll_append]
    refine ⟨hschemas, fun r hr role b hb => ?_⟩
    rcases List.mem_cons.mp hr with rfl | hr
    · exact List.mem_append_left _ ((bodies_describe p s role).1 b hb)
    · exact List.mem_append_right _ (hbodies r hr role b hb)

/-! ## References in documents -/

/-- How a reference to a schema reads. -/
def referenceTo (name : String) : String := "#/components/schemas/" ++ name

/-- The reference in what carries a content. -/
def contentReference (v : Json) : Option Json :=
  v.at? ["content", "application/json", "schema", "$ref"]

/-- The references to schemas in an operation. -/
def references (operation : Json) : Role → List Json
  | .request => ((operation.get? "requestBody").bind contentReference).toList
  | .response =>
    ((operation.get? "responses").getD .null).fieldsOf.filterMap fun r => contentReference r.2

/-- What a reference within a document leads to: after the mark for the document stand
the names on the way. -/
def resolve (document : Json) (ref : String) : Option Json :=
  match Text.splitOnP (· == '/') ref.toList with
  | ['#'] :: names => document.at? (names.map String.ofList)
  | _ => none

theorem get?_optionalField (name key : String) (v : Option Json) :
    Entries.get? (optionalField name v) key = if name = key then v else none := by
  cases v with
  | none => simp [optionalField]
  | some v => simp [optionalField, Entries.get?_cons]

theorem contentReference_toJson (r : Response) :
    contentReference r.toJson = r.body.map fun b => .str (referenceTo b.schema) := by
  cases h : r.body with
  | none =>
    rw [Response.toJson, h]
    rfl
  | some b =>
    rw [Response.toJson, h]
    rfl

theorem get?_responses_toJson (o : Operation) :
    o.toJson.get? "responses" = some (.obj (o.responses.map fun r => (r.1, r.2.toJson))) := by
  simp [Operation.toJson, Json.get?, Entries.get?_append, Entries.get?_cons, get?_optionalField]

/-- The references of an operation are those of its bodies. -/
theorem references_toJson (o : Operation) (role : Role) :
    references o.toJson role = (o.bodies role).map fun b => .str (referenceTo b.schema) := by
  cases role with
  | request =>
    have hget : o.toJson.get? "requestBody" = o.body.map Body.requestJson := by
      simp [Operation.toJson, Json.get?, Entries.get?_append, Entries.get?_cons, get?_optionalField]
    rw [references, hget, Operation.bodies]
    cases o.body with
    | none => rfl
    | some b => rfl
  | response =>
    rw [references, get?_responses_toJson, Operation.bodies, List.map_filterMap]
    change (o.responses.map fun r => (r.1, r.2.toJson)).filterMap
      (fun r => contentReference r.2) = _
    rw [List.filterMap_map]
    exact List.filterMap_congr fun r _ => contentReference_toJson r.2

/-- A reference by a word leads to the schema of that name. -/
theorem resolve_referenceTo (doc : Document) {name : String} (h : IsComponentName name) :
    resolve doc.toJson (referenceTo name) = (doc.schemas.get? name).map Json.obj := by
  have hjoin : (referenceTo name).toList =
      ['/'].intercalate (["#", "components", "schemas", name].map String.toList) := by
    change ("#/components/schemas/" ++ name).toList = _
    rw [String.toList_append]
    simp
  have hslash : '/' ∉ name.toList := fun hm => Bool.false_ne_true (h.2 '/' hm)
  have hparts : ∀ part ∈ ["#", "components", "schemas", name].map String.toList, '/' ∉ part := by
    simp only [List.map_cons, List.map_nil, List.forall_mem_cons]
    exact ⟨by decide, by decide, by decide, hslash, List.forall_mem_nil _⟩
  have hsplit : Text.splitOnP (· == '/') (referenceTo name).toList =
      ["#", "components", "schemas", name].map String.toList := by
    rw [hjoin, Text.splitOnP_eq, ← List.splitOn_eq_splitOnP]
    exact List.splitOn_intercalate '/' hparts (by simp)
  have hdocument : "#".toList = ['#'] := by decide
  rw [resolve, hsplit, List.map_cons, hdocument]
  change (Entries.get? (doc.schemas.map fun s => (s.1, Json.obj s.2))
    (String.ofList name.toList)).bind some = _
  rw [String.ofList_toList, Option.bind_fun_some, Entries.get?_map]

/-! ## Assembled documents -/

/-- The schemas that the operations of a document register, in order. -/
def registered (ds : List DocumentedRoute) : List SchemaUse :=
  match orderedPaths (place ds) with
  | .ok l => (slotsOf l).flatMap Slot.uses
  | .error _ => []

theorem exists_of_mapM_ok {α β ε : Type} {f : α → Except ε β} {xs : List α} {ys : List β}
    (h : xs.mapM f = .ok ys) {y : β} (hy : y ∈ ys) : ∃ x ∈ xs, f x = .ok y := by
  induction xs generalizing ys with
  | nil =>
    obtain rfl : [] = ys := Except.ok.inj h
    cases hy
  | cons x xs ih =>
    rw [List.mapM_cons] at h
    cases hx : f x with
    | error e =>
      rw [hx] at h
      cases h
    | ok z =>
      rw [hx] at h
      cases hxs : xs.mapM f with
      | error e =>
        rw [hxs] at h
        cases h
      | ok zs =>
        rw [hxs] at h
        obtain rfl : z :: zs = ys := Except.ok.inj h
        rcases List.mem_cons.mp hy with rfl | hy
        · exact ⟨x, List.mem_cons_self, hx⟩
        · obtain ⟨w, hw, hfw⟩ := ih hxs hy
          exact ⟨w, List.mem_cons_of_mem x hw, hfw⟩

/-- The slots of a document hold what counts at their paths. -/
theorem mem_declaredAt_of_slotsOf {placed : List Placed}
    {l : List (String × Entries DocumentedRoute)} (h : orderedPaths placed = .ok l) {s : Slot}
    (hs : s ∈ slotsOf l) : (s.verb, s.route) ∈ declaredAt placed s.path := by
  obtain ⟨⟨path, ops⟩, hentry, hs⟩ := List.mem_flatMap.mp hs
  obtain ⟨op, hop, rfl⟩ := List.mem_map.mp hs
  obtain ⟨path', -, hops⟩ := exists_of_mapM_ok h hentry
  split at hops
  · rename_i ops' hordered
    obtain ⟨rfl, rfl⟩ := Prod.mk.inj (Except.ok.inj hops)
    unfold inVerbOrder? at hordered
    split at hordered
    · obtain rfl := Option.some.inj hordered
      exact (List.mergeSort_perm _ _).mem_iff.mp hop
    · cases hordered
  · cases hops

theorem assemble_ok {info : DocumentInfo} {frameworks : List String} {ds : List DocumentedRoute}
    {doc : Document} {reports : List Diagnostic}
    (hok : assemble info frameworks ds = .ok (doc, reports)) :
    ∃ l, orderedPaths (place ds) = .ok l ∧ doc.paths = (describePaths {} l).1 ∧
      doc.schemas = (describePaths {} l).2.schemas.byName := by
  cases h : orderedPaths (place ds) with
  | error e =>
    rw [assemble, h] at hok
    cases hok
  | ok l =>
    rw [assemble, h] at hok
    obtain ⟨rfl, -⟩ := Prod.mk.inj (Except.ok.inj hok)
    exact ⟨l, rfl, rfl, rfl⟩

/-- Routes with known verbs have a document. Whatever routes a document is assembled
from, their schemas are registered in one run and are the components of the document. An
operation has references where it has a place for a schema of its analysis, unless that
is empty. Each of them leads to the schema under the name that the schema of the analysis
got, and the two are alike. -/
theorem assemble_references (info : DocumentInfo) (frameworks : List String)
    {ds : List DocumentedRoute}
    (hnames : ∀ d ∈ ds, ∀ role, (Json.obj (SchemaUse.schema ⟨d, role⟩)).namesOnce = true) :
    ((∀ d ∈ ds, d.route.method ∈ verbs) →
        ∃ doc reports, assemble info frameworks ds = .ok (doc, reports)) ∧
      ∀ doc reports, assemble info frameworks ds = .ok (doc, reports) →
        Registry (registered ds) ∧ doc.schemas = components (registered ds) ∧
          ∀ path item verb o, (path, item) ∈ doc.paths → (verb, o) ∈ item →
            ∃ single, ∃ d ∈ ds, normalizePath d.route.path = path ∧ Text.lower single = verb ∧
              (single, d) ∈ declaredAt (place ds) path ∧ o.Documents path single d ∧
              ∀ role, (references o.toJson role ≠ [] ↔
                  Slot.shows ⟨path, single, d⟩ role = true ∧
                    SchemaUse.schema ⟨d, role⟩ ≠ []) ∧
                ∀ v ∈ references o.toJson role, ∃ name schema,
                  v = .str (referenceTo name) ∧ (⟨d, role⟩, name) ∈ namedUses (registered ds) ∧
                    resolve doc.toJson (referenceTo name) = some (.obj schema) ∧
                    Json.alike (.obj schema) (.obj (SchemaUse.schema ⟨d, role⟩)) = true := by
  refine ⟨fun hds => ⟨_, _, assemble_eq hds info frameworks⟩, fun doc reports hok => ?_⟩
  obtain ⟨l, hl, hpaths, hschemas⟩ := assemble_ok hok
  obtain ⟨hprogress, hoperations⟩ := describePaths_slots {} l
  obtain ⟨hrun, hbodies⟩ := describeSlots_registerAll {} (slotsOf l)
  have huses : registered ds = (slotsOf l).flatMap Slot.uses := by rw [registered, hl]
  have hcomponents : doc.schemas = components (registered ds) := by
    rw [hschemas, hprogress, hrun, huses]
    rfl
  have hroutes : ∀ s ∈ slotsOf l, s.route ∈ ds ∧ normalizePath s.route.route.path = s.path :=
    fun s hs => mem_of_mem_declaredAt (mem_declaredAt_of_slotsOf hl hs)
  have hregistry : Registry (registered ds) := by
    refine registry fun u hu => ?_
    rw [huses] at hu
    obtain ⟨s, hs, hu⟩ := List.mem_flatMap.mp hu
    exact hnames _ (route_of_mem_uses hu ▸ (hroutes s hs).1) u.role
  refine ⟨hregistry, hcomponents, fun path item verb o hitem ho => ?_⟩
  rw [hpaths] at hitem
  obtain ⟨⟨s, o'⟩, hr, rfl, he⟩ := hoperations path item hitem _ ho
  obtain ⟨rfl, rfl⟩ := Prod.mk.inj he
  obtain ⟨hs, p, hp⟩ := mem_describeSlots hr
  obtain ⟨hd, hpath⟩ := hroutes s hs
  have hshown : ∀ role, references (verbEntry (s, o')).2.toJson role ≠ [] ↔
      s.shows role = true ∧ SchemaUse.schema ⟨s.route, role⟩ ≠ [] := by
    intro role
    rw [← (bodies_describe p s role).2, ← hp, references_toJson, Ne, List.map_eq_nil_iff]
    rfl
  refine ⟨s.verb, s.route, hd, hpath, rfl, mem_declaredAt_of_slotsOf hl hs, ⟨p, hp⟩,
    fun role => ⟨hshown role, fun v hv => ?_⟩⟩
  rw [references_toJson] at hv
  obtain ⟨b, hb, rfl⟩ := List.mem_map.mp hv
  have hname : (⟨s.route, role⟩, b.schema) ∈ namedUses (registered ds) := by
    rw [huses]
    exact hbodies _ hr role b hb
  obtain ⟨kept, hkept, halike⟩ := hregistry.resolves _ hname
  have hword : IsComponentName b.schema := hregistry.isComponentName_of_get? hkept
  refine ⟨b.schema, kept, rfl, hname, ?_, halike⟩
  rw [resolve_referenceTo doc hword, hcomponents, hkept]
  rfl

/-- A route that is documented from its shape. -/
def templated (method path : String) : DocumentedRoute :=
  let r : Route := { method, path, parameters := pathParameters path }
  ⟨r, templateAnalysis r, .template⟩

/-- The schemas that follow from the shape of a route give each name once. -/
theorem namesOnce_templateAnalysis (r : Route) (strategy : Strategy) (role : Role) :
    (Json.obj (SchemaUse.schema ⟨⟨r, templateAnalysis r, strategy⟩, role⟩)).namesOnce = true := by
  cases role with
  | request =>
    change (Json.obj ((templateRequestSchema r).getD [])).namesOnce = true
    rw [templateRequestSchema]
    split <;> decide
  | response =>
    change (Json.obj (templateResponseSchema r)).namesOnce = true
    rw [templateResponseSchema]
    split <;> decide

/-- Two routes that take the same request. -/
def sharingRoutes : List DocumentedRoute :=
  [templated "POST" "/users", templated "PUT" "/users/:id"]

/-- The requests of two routes refer to one schema. -/
theorem assemble_references_shared :
    (∀ d ∈ sharingRoutes, ∀ role, (Json.obj (SchemaUse.schema ⟨d, role⟩)).namesOnce = true) ∧
      ∃ doc reports, assemble {} [] sharingRoutes = .ok (doc, reports) ∧
        ∃ item o item' o' v, ("/users", item) ∈ doc.paths ∧ ("post", o) ∈ item ∧
          ("/users/\x7bid\x7d", item') ∈ doc.paths ∧ ("put", o') ∈ item' ∧
            v ∈ references o.toJson .request ∧ v ∈ references o'.toJson .request := by
  have hnames : ∀ d ∈ sharingRoutes, ∀ role,
      (Json.obj (SchemaUse.schema ⟨d, role⟩)).namesOnce = true := by
    simp only [sharingRoutes, List.forall_mem_cons]
    exact ⟨namesOnce_templateAnalysis _ _, namesOnce_templateAnalysis _ _, List.forall_mem_nil _⟩
  have hds : ∀ d ∈ sharingRoutes, d.route.method ∈ verbs := by decide
  have hok := assemble_eq hds {} []
  have hpost : governing sharingRoutes "/users" "POST" = some (templated "POST" "/users") := by rfl
  have hput : governing sharingRoutes "/users/\x7bid\x7d" "PUT" =
      some (templated "PUT" "/users/:id") := by rfl
  obtain ⟨item, o, hitem, ho, -⟩ := exists_mem_of_governing {} [] hds (by decide) hpost
  obtain ⟨item', o', hitem', ho', -⟩ := exists_mem_of_governing {} [] hds (by decide) hput
  obtain ⟨hregistry, -, hreferences⟩ := (assemble_references {} [] hnames).2 _ _ hok
  obtain ⟨_, d, hd, -, -, hdeclared, -, href⟩ := hreferences _ item _ o hitem ho
  obtain ⟨_, d', hd', -, -, hdeclared', -, href'⟩ := hreferences _ item' _ o' hitem' ho'
  obtain ⟨hshown, hname⟩ := href .request
  obtain ⟨hshown', hname'⟩ := href' .request
  have hshow : ∀ path ∈ ["/users", "/users/\x7bid\x7d"],
      ∀ e ∈ declaredAt (place sharingRoutes) path,
        Slot.shows ⟨path, e.1, e.2⟩ .request = true ∧
          (SchemaUse.schema ⟨e.2, .request⟩).isEmpty = false := by decide
  have hne : references o.toJson .request ≠ [] := by
    obtain ⟨hshow, hschema⟩ := hshow _ (by decide) _ hdeclared
    exact hshown.mpr ⟨hshow, List.isEmpty_eq_false_iff.mp hschema⟩
  have hne' : references o'.toJson .request ≠ [] := by
    obtain ⟨hshow, hschema⟩ := hshow _ (by decide) _ hdeclared'
    exact hshown'.mpr ⟨hshow, List.isEmpty_eq_false_iff.mp hschema⟩
  obtain ⟨v, hv⟩ := List.exists_mem_of_ne_nil _ hne
  obtain ⟨w, hw⟩ := List.exists_mem_of_ne_nil _ hne'
  obtain ⟨name, -, rfl, hnamed, -⟩ := hname v hv
  obtain ⟨name', -, rfl, hnamed', -⟩ := hname' w hw
  have halike : ∀ d ∈ sharingRoutes, ∀ d' ∈ sharingRoutes,
      Json.alike (.obj (SchemaUse.schema ⟨d, .request⟩))
        (.obj (SchemaUse.schema ⟨d', .request⟩)) = true := by decide
  have heq : name = name' := (hregistry.name_eq_iff _ hnamed _ hnamed').mpr (halike d hd d' hd')
  exact ⟨hnames, _, _, hok, item, o, item', o', _, hitem, ho, hitem', ho', hv, heq ▸ hw⟩

end OpenApi

end RouteDoc
