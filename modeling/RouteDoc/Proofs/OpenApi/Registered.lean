import Mathlib.Data.List.Perm.Subperm
import Mathlib.Data.Nat.Find
import RouteDoc.OpenApi.Document
import RouteDoc.Proofs.Json.Canonical
import RouteDoc.Proofs.Route.Names

/-!
# Schemas under names

Schemas are registered one after another. A schema takes the name of an alike one
that was there before, or else the first free form of its own.

* `freshName_eq`: the search for a free form ends at the first one;
* `SchemaUse`, `Schemas.registerAll`: registering schemas of documented routes;
* `Schemas.Sound`: what holds of the tables after any number of steps;
* `registry`: what a run gives.
-/

namespace RouteDoc.OpenApi

/-! ## Free names -/

/-- A name, then its numbered forms. -/
def nameForm (base : String) : Nat → String
  | 0 => base
  | n + 1 => base ++ toString (n + 2)

theorem nameForm_inj {base : String} {m n : Nat} (h : nameForm base m = nameForm base n) :
    m = n := by
  have hnumber : ∀ k : Nat, base ≠ base ++ toString k := by
    intro k hk
    have hlength := congrArg String.length hk
    have hpos : 0 < (toString k).length := by
      rw [Nat.toString_eq_repr]
      exact Nat.length_repr_pos
    rw [String.length_append] at hlength
    omega
  cases m with
  | zero =>
    cases n with
    | zero => rfl
    | succ n => exact absurd h (hnumber _)
  | succ m =>
    cases n with
    | zero => exact absurd h.symm (hnumber _)
    | succ n =>
      rw [nameForm, nameForm, String.append_right_inj] at h
      have := Text.toString_nat_inj h
      omega

/-- Of a name and as many numbered forms as there are names taken one is free. -/
theorem exists_nameForm_not_mem (taken : List String) (base : String) :
    ∃ n ≤ taken.length, nameForm base n ∉ taken := by
  by_contra hall
  simp only [not_exists, not_and, not_not] at hall
  have hnodup : ((List.range (taken.length + 1)).map (nameForm base)).Nodup :=
    List.nodup_range.map fun _ _ => nameForm_inj
  have hsub := List.subperm_of_subset hnodup fun name hname => by
    obtain ⟨n, hn, rfl⟩ := List.mem_map.mp hname
    exact hall n (Nat.lt_succ_iff.mp (List.mem_range.mp hn))
  have hlength := hsub.length_le
  rw [List.length_map, List.length_range] at hlength
  exact Nat.not_succ_le_self _ hlength

/-- The search for a free name ends: it gives the first form that is not taken, and
none of the forms before it. -/
theorem freshName_eq (taken : List String) (base : String) :
    ∃ n ≤ taken.length, freshName taken base = nameForm base n ∧ nameForm base n ∉ taken ∧
      ∀ k < n, nameForm base k ∈ taken := by
  have hfree := exists_nameForm_not_mem taken base
  have hexists : ∃ n, nameForm base n ∉ taken := hfree.imp fun _ h => h.2
  have hfirst := Nat.find_spec hexists
  have hbefore : ∀ k < Nat.find hexists, nameForm base k ∈ taken := fun k hk =>
    not_not.mp (Nat.find_min hexists hk)
  have hbound : Nat.find hexists ≤ taken.length := by
    obtain ⟨n, hn, hnot⟩ := hfree
    exact (Nat.find_min' hexists hnot).trans hn
  refine ⟨Nat.find hexists, hbound, ?_, hfirst, hbefore⟩
  generalize Nat.find hexists = first at *
  cases first with
  | zero =>
    have hbase : ¬taken.contains base = true := fun h => hfirst (List.contains_iff_mem.mp h)
    rw [freshName, if_neg hbase, nameForm]
  | succ n =>
    have hbase : taken.contains base = true :=
      List.contains_iff_mem.mpr (hbefore 0 (Nat.zero_lt_succ n))
    have hfound : (List.range (taken.length + 1)).find? ((fun name => !taken.contains name) ∘
        fun n => base ++ toString (n + 2)) = some n := by
      rw [List.find?_range_eq_some]
      refine ⟨?_, List.mem_range.mpr (by omega), fun j hj => ?_⟩
      · have hnot : taken.contains (nameForm base (n + 1)) = false :=
          Bool.eq_false_iff.mpr fun h => hfirst (List.contains_iff_mem.mp h)
        exact (congrArg (!·) hnot).trans Bool.not_false
      · have hj : taken.contains (nameForm base (j + 1)) = true :=
          List.contains_iff_mem.mpr (hbefore (j + 1) (by omega))
        exact (Bool.not_not _).trans hj
    rw [freshName, if_pos hbase, List.find?_map, hfound]
    rfl

/-! ## Words -/

/-- A name that is a word: letters, digits and underscores of ASCII, at least one. -/
def IsComponentName (name : String) : Prop := name ≠ "" ∧ IsWord name.toList

theorem isNameChar_toUpper {c : Char} (h : isNameChar c = true) :
    c.toNat < 0x80 ∧ isNameChar c.toUpper = true := by
  rw [isNameChar, Bool.or_eq_true, beq_iff_eq] at h
  rcases h with h | rfl
  · have hcode := Text.isAlphanum_iff.mp h
    refine ⟨by omega, ?_⟩
    rw [isNameChar, Text.isAlphanum_toUpper h]
    rfl
  · exact ⟨by decide, rfl⟩

theorem isWord_of_mem_safeRuns {cs run : List Char} (h : run ∈ Text.safeRuns cs) : IsWord run := by
  induction cs generalizing run with
  | nil => cases h
  | cons c cs ih =>
    unfold Text.safeRuns at h
    split at h
    · rename_i hc
      have hcons : ∀ {run : List Char}, IsWord run → IsWord (c :: run) := fun hrun d hd =>
        (List.mem_cons.mp hd).elim (fun he => he ▸ hc) (hrun d)
      split at h
      · rename_i hruns
        rw [hruns] at ih
        split at h
        · rcases List.mem_cons.mp h with rfl | h
          · exact hcons (ih List.mem_cons_self)
          · exact ih (List.mem_cons_of_mem _ h)
        · rcases List.mem_cons.mp h with rfl | h
          · exact hcons (fun _ hd => nomatch hd)
          · exact ih h
      · rcases List.mem_cons.mp h with rfl | h
        · exact hcons (fun _ hd => nomatch hd)
        · exact ih h
    · exact ih h

theorem isWord_capitalize {run : List Char} (h : IsWord run) :
    IsWord (Text.capitalize (String.ofList run)).toList := by
  rw [Text.capitalize, String.toList_ofList]
  cases run with
  | nil => exact fun _ hc => nomatch hc
  | cons c run =>
    obtain ⟨hascii, hupper⟩ := isNameChar_toUpper (h c List.mem_cons_self)
    dsimp only
    rw [Text.upperChar, if_pos hascii, String.toList_ofList]
    exact isWord_append (fun d hd => List.mem_singleton.mp hd ▸ hupper)
      fun d hd => h d (List.mem_cons_of_mem c hd)

theorem isWord_pascal (word : String) : IsWord (Text.pascal word).toList := by
  unfold Text.pascal
  split
  · exact isWord_of_all rfl
  · rw [String.toList_join]
    intro c hc
    obtain ⟨piece, hpiece, hc⟩ := List.mem_flatMap.mp hc
    obtain ⟨run, hrun, rfl⟩ := List.mem_map.mp hpiece
    exact isWord_capitalize (isWord_of_mem_safeRuns hrun) c hc

theorem isComponentName_append {prefixed suffix : String} (hp : IsWord prefixed.toList)
    (hs : IsComponentName suffix) : IsComponentName (prefixed ++ suffix) := by
  refine ⟨fun h => hs.1 ?_, ?_⟩
  · exact (String.append_eq_empty_iff.mp h).2
  · rw [String.toList_append]
    exact isWord_append hp hs.2

theorem isComponentName_schemaName (path : String) (schema : Fields) {suffix : String}
    (h : IsComponentName suffix) : IsComponentName (schemaName path schema suffix) := by
  have hkind : IsWord
      (if schema.get? "type" == some (.str "array") then "List" else "" : String).toList := by
    split <;> exact isWord_of_all rfl
  unfold schemaName
  dsimp only
  refine isComponentName_append ?_ h
  rw [String.toList_append]
  exact isWord_append (isWord_pascal _) hkind

theorem isComponentName_nameForm {base : String} (h : IsComponentName base) (n : Nat) :
    IsComponentName (nameForm base n) := by
  cases n with
  | zero => exact h
  | succ n =>
    refine ⟨fun he => h.1 (String.append_eq_empty_iff.mp he).1, ?_⟩
    rw [nameForm, String.toList_append]
    refine isWord_append h.2 fun c hc => ?_
    simp [isNameChar, Char.isAlphanum, Text.isDigit_of_mem_toString hc]

/-! ## Registering schemas -/

/-- What a schema of a documented route is a schema of. -/
inductive Role
  | request
  | response
  deriving DecidableEq

/-- What the names of schemas end with. -/
def Role.suffix : Role → String
  | request => "Request"
  | response => "Response"

/-- A schema of a documented route. -/
structure SchemaUse where
  route : DocumentedRoute
  role : Role

/-- The fields of the schema, none if the analysis gives no schema. -/
def SchemaUse.schema (u : SchemaUse) : Fields :=
  match u.role with
  | .request => u.route.analysis.requestSchema.getD []
  | .response => u.route.analysis.responseSchema

/-- The name that is looked for first if no alike schema is there. -/
def SchemaUse.baseName (u : SchemaUse) : String :=
  schemaName u.route.route.path u.schema u.role.suffix

theorem isComponentName_baseName (u : SchemaUse) : IsComponentName u.baseName := by
  refine isComponentName_schemaName _ _ ?_
  cases u.role with
  | request => exact ⟨by decide, isWord_of_all rfl⟩
  | response => exact ⟨by decide, isWord_of_all rfl⟩

namespace Schemas

/-- The name of a schema of a documented route, which is kept if it is new. -/
def register (s : Schemas) (u : SchemaUse) : String × Schemas :=
  s.refer u.route.route.path u.schema u.role.suffix

/-- Schemas of documented routes one after another, each with its name. -/
def registerAll (s : Schemas) : List SchemaUse → List (SchemaUse × String) × Schemas
  | [] => ([], s)
  | u :: uses =>
    let r := (s.register u).2.registerAll uses
    ((u, (s.register u).1) :: r.1, r.2)

theorem registerAll_append (s : Schemas) (us vs : List SchemaUse) :
    s.registerAll (us ++ vs) =
      ((s.registerAll us).1 ++ ((s.registerAll us).2.registerAll vs).1,
        ((s.registerAll us).2.registerAll vs).2) := by
  induction us generalizing s with
  | nil => rfl
  | cons u us ih => rw [List.cons_append, registerAll, ih]; rfl

theorem map_fst_registerAll (s : Schemas) (uses : List SchemaUse) :
    (s.registerAll uses).1.map (·.1) = uses := by
  induction uses generalizing s with
  | nil => rfl
  | cons u uses ih => rw [registerAll, List.map_cons, ih]

/-- The names that are taken. -/
def taken (s : Schemas) : List String := s.byName.map (·.1)

/-- One more schema under a name. -/
def add (s : Schemas) (name : String) (schema : Fields) : Schemas where
  byName := s.byName ++ [(name, schema)]
  nameOf := s.nameOf ++ [(Json.canonical (.obj schema), name)]

/-- Both tables hold the same schemas, each under a word of its own, and no two of
one structure. -/
structure Sound (s : Schemas) : Prop where
  nameOf_eq : s.nameOf = s.byName.map fun e => (Json.canonical (.obj e.2), e.1)
  nodup_taken : s.taken.Nodup
  nodup_keys : (s.nameOf.map (·.1)).Nodup
  isComponentName : ∀ name ∈ s.taken, IsComponentName name

/-- A schema of the same structure stands under a name. -/
def Names (s : Schemas) (schema : Fields) (name : String) : Prop :=
  ∃ kept, s.byName.get? name = some kept ∧
    Json.canonical (.obj kept) = Json.canonical (.obj schema)

theorem sound_empty : Sound {} := ⟨rfl, .nil, .nil, fun _ h => nomatch h⟩

/-- What stands under a name stays there if schemas are added at the end. -/
theorem get?_mono {s t : Schemas} (h : s.byName <+: t.byName) {name : String}
    {schema : Fields} (hs : s.byName.get? name = some schema) :
    t.byName.get? name = some schema := by
  obtain ⟨more, hmore⟩ := h
  rw [← hmore, Entries.get?_append, hs, Option.some_or]

theorem Names.mono {s t : Schemas} {schema : Fields} {name : String} (hs : s.Names schema name)
    (h : s.byName <+: t.byName) : t.Names schema name :=
  hs.imp fun _ hkept => ⟨get?_mono h hkept.1, hkept.2⟩

section

variable {s : Schemas} (hs : s.Sound)
include hs

theorem Sound.get?_nameOf {schema : Fields} {name : String} :
    s.nameOf.get? (Json.canonical (.obj schema)) = some name ↔ s.Names schema name := by
  rw [← Entries.mem_iff_get? hs.nodup_keys, hs.nameOf_eq, List.mem_map]
  constructor
  · rintro ⟨⟨n, kept⟩, hmem, he⟩
    obtain ⟨hkey, rfl⟩ := Prod.mk.inj he
    exact ⟨kept, (Entries.mem_iff_get? hs.nodup_taken).mp hmem, hkey⟩
  · rintro ⟨kept, hkept, hkey⟩
    exact ⟨(name, kept), (Entries.mem_iff_get? hs.nodup_taken).mpr hkept, Prod.ext hkey rfl⟩

/-- Names differ exactly where structures do. -/
theorem Sound.name_eq_iff {xs ys : Fields} {a b : String} (ha : s.Names xs a)
    (hb : s.Names ys b) : a = b ↔ Json.canonical (.obj xs) = Json.canonical (.obj ys) := by
  constructor
  · rintro rfl
    obtain ⟨kept, hkept, hx⟩ := ha
    obtain ⟨kept', hkept', hy⟩ := hb
    obtain rfl := Option.some.inj (hkept.symm.trans hkept')
    exact hx.symm.trans hy
  · intro h
    have hx := hs.get?_nameOf.mpr ha
    rw [h, hs.get?_nameOf.mpr hb] at hx
    exact (Option.some.inj hx).symm

theorem Sound.add {name : String} {schema : Fields} (hname : IsComponentName name)
    (hfree : name ∉ s.taken)
    (hkey : Json.canonical (.obj schema) ∉ s.nameOf.map (·.1)) : (s.add name schema).Sound where
  nameOf_eq := by
    rw [Schemas.add, List.map_append, hs.nameOf_eq]
    rfl
  nodup_taken := by
    rw [taken, Schemas.add, List.map_append]
    exact List.nodup_append_comm.mp (List.nodup_cons.mpr ⟨hfree, hs.nodup_taken⟩)
  nodup_keys := by
    rw [Schemas.add, List.map_append]
    exact List.nodup_append_comm.mp (List.nodup_cons.mpr ⟨hkey, hs.nodup_keys⟩)
  isComponentName name' h := by
    rw [taken, Schemas.add, List.map_append, List.mem_append] at h
    rcases h with h | h
    · exact hs.isComponentName name' h
    · exact List.mem_singleton.mp h ▸ hname

/-- A schema has the name of one of its structure, or is added under a free name. -/
theorem Sound.register_cases (u : SchemaUse) :
    (∃ name, s.Names u.schema name ∧ s.register u = (name, s)) ∨
      ∃ name, name = freshName s.taken u.baseName ∧ name ∉ s.taken ∧
        Json.canonical (.obj u.schema) ∉ s.nameOf.map (·.1) ∧
          s.register u = (name, s.add name u.schema) := by
  unfold Schemas.register refer
  dsimp only
  split
  · rename_i name hname
    exact .inl ⟨name, hs.get?_nameOf.mp hname, rfl⟩
  · rename_i hnone
    obtain ⟨n, -, hname, hfree, -⟩ := freshName_eq s.taken u.baseName
    exact .inr ⟨_, rfl, hname ▸ hfree, Entries.get?_eq_none_iff.mp hnone, rfl⟩

/-- Registering a schema keeps the tables sound and what stands in them in place, and
gives the schema its name. -/
theorem Sound.register (u : SchemaUse) :
    (s.register u).2.Sound ∧ s.byName <+: (s.register u).2.byName ∧
      (s.register u).2.Names u.schema (s.register u).1 ∧
      ∀ e ∈ (s.register u).2.byName, e ∈ s.byName ∨ e.2 = u.schema := by
  rcases hs.register_cases u with ⟨name, hnames, h⟩ | ⟨name, hname, hfree, hkey, h⟩
  · rw [h]
    exact ⟨hs, List.prefix_refl _, hnames, fun _ he => .inl he⟩
  · obtain ⟨n, -, hform, -⟩ := freshName_eq s.taken u.baseName
    have hword : IsComponentName name :=
      hname ▸ hform ▸ isComponentName_nameForm (isComponentName_baseName u) n
    have hnew : (s.add name u.schema).byName.get? name = some u.schema := by
      rw [Schemas.add, Entries.get?_append, Entries.get?_eq_none_iff.mpr hfree, Option.none_or,
        Entries.get?_cons, if_pos rfl]
    rw [h]
    refine ⟨hs.add hword hfree hkey, List.prefix_append _ _, ⟨u.schema, hnew, rfl⟩, fun e he => ?_⟩
    rcases List.mem_append.mp he with he | he
    · exact .inl he
    · exact .inr (congrArg Prod.snd (List.mem_singleton.mp he))

/-- What registering one schema keeps, registering any number of them keeps. -/
theorem Sound.registerAll (uses : List SchemaUse) :
    (s.registerAll uses).2.Sound ∧ s.byName <+: (s.registerAll uses).2.byName ∧
      (∀ x ∈ (s.registerAll uses).1, (s.registerAll uses).2.Names x.1.schema x.2) ∧
      ∀ e ∈ (s.registerAll uses).2.byName, e ∈ s.byName ∨ ∃ u ∈ uses, e.2 = u.schema := by
  induction uses generalizing s with
  | nil => exact ⟨hs, List.prefix_refl _, List.forall_mem_nil _, fun _ he => .inl he⟩
  | cons u uses ih =>
    obtain ⟨hsound, hprefix, hnames, hfrom⟩ := hs.register u
    obtain ⟨hsound', hprefix', hnames', hfrom'⟩ := ih hsound
    refine ⟨hsound', hprefix.trans hprefix', fun x hx => ?_, fun e he => ?_⟩
    · rcases List.mem_cons.mp hx with rfl | hx
      · exact hnames.mono hprefix'
      · exact hnames' x hx
    · rcases hfrom' e he with he | ⟨v, hv, he⟩
      · exact (hfrom e he).imp_right fun he => ⟨u, List.mem_cons_self, he⟩
      · exact .inr ⟨v, List.mem_cons_of_mem u hv, he⟩

end

end Schemas

/-! ## Runs -/

/-- Schemas with the names they get one after another. -/
def namedUses (uses : List SchemaUse) : List (SchemaUse × String) :=
  (Schemas.registerAll {} uses).1

/-- The schemas that are kept, under their names. -/
def components (uses : List SchemaUse) : Entries Fields := (Schemas.registerAll {} uses).2.byName

/-- What holds of schemas that are registered one after another: a name leads to an
alike schema, alike schemas and no others share a name, names are words, what was
given before stays, and a free name is found among the first forms of the name looked
for. -/
structure Registry (uses : List SchemaUse) : Prop where
  resolves : ∀ x ∈ namedUses uses, ∃ kept, (components uses).get? x.2 = some kept ∧
    Json.alike (.obj kept) (.obj x.1.schema) = true
  name_eq_iff : ∀ x ∈ namedUses uses, ∀ y ∈ namedUses uses,
    x.2 = y.2 ↔ Json.alike (.obj x.1.schema) (.obj y.1.schema) = true
  isComponentName : ∀ name ∈ (components uses).map (·.1), IsComponentName name
  stays : ∀ before after, uses = before ++ after → namedUses before <+: namedUses uses ∧
    ∀ name schema, (components before).get? name = some schema →
      (components uses).get? name = some schema
  searched : ∀ before u after, uses = before ++ u :: after →
    ∃ n ≤ (components before).length,
      freshName ((components before).map (·.1)) u.baseName = nameForm u.baseName n ∧
        nameForm u.baseName n ∉ (components before).map (·.1) ∧
        ∀ k < n, nameForm u.baseName k ∈ (components before).map (·.1)

theorem Registry.isComponentName_of_get? {uses : List SchemaUse} (h : Registry uses)
    {name : String} {schema : Fields} (hget : (components uses).get? name = some schema) :
    IsComponentName name := by
  refine h.isComponentName name (Decidable.byContradiction fun hnot => ?_)
  rw [Entries.get?_eq_none_iff.mpr hnot] at hget
  cases hget

/-- Schemas whose objects give each name once make a registry. -/
theorem registry {uses : List SchemaUse}
    (h : ∀ u ∈ uses, (Json.obj u.schema).namesOnce = true) : Registry uses := by
  obtain ⟨hsound, -, hnames, hfrom⟩ := Schemas.sound_empty.registerAll uses
  have hmem : ∀ x ∈ namedUses uses, (Json.obj x.1.schema).namesOnce = true := fun x hx => by
    refine h x.1 ?_
    rw [← Schemas.map_fst_registerAll {} uses]
    exact List.mem_map_of_mem hx
  refine
    { resolves := fun x hx => ?resolves
      name_eq_iff := fun x hx y hy => ?name
      isComponentName := hsound.isComponentName
      stays := ?stays
      searched := fun before u after _ => ?searched }
  case resolves =>
    obtain ⟨kept, hkept, hkey⟩ := hnames x hx
    rcases hfrom _ ((Entries.mem_iff_get? hsound.nodup_taken).mpr hkept) with he | ⟨u, hu, he⟩
    · cases he
    · obtain rfl : kept = u.schema := he
      exact ⟨_, hkept, (Json.canonical_eq_iff (h u hu) (hmem x hx)).mp hkey⟩
  case name =>
    rw [← Json.canonical_eq_iff (hmem x hx) (hmem y hy)]
    exact hsound.name_eq_iff (hnames x hx) (hnames y hy)
  case stays =>
    rintro before after rfl
    obtain ⟨hsound', -⟩ := Schemas.sound_empty.registerAll before
    obtain ⟨-, hprefix, -⟩ := hsound'.registerAll after
    rw [namedUses, namedUses, components, components, Schemas.registerAll_append]
    exact ⟨List.prefix_append _ _, fun _ _ => Schemas.get?_mono hprefix⟩
  case searched =>
    have hfresh := freshName_eq ((components before).map (·.1)) u.baseName
    rwa [List.length_map] at hfresh

end RouteDoc.OpenApi
