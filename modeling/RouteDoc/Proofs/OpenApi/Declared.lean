import RouteDoc.Proofs.Entries
import RouteDoc.Proofs.OpenApi.Order

/-!
# The declaration that counts

What counts at a path is found by grouping all declarations and sorting what is
left of them. Stated verb by verb, it is `governing`: the last declaration of
the verb, or else the last one of the verb for several.

* `get?_declaredAt`: what counts at a path, looked up by verb;
* `inVerbOrder?_declaredAt`: what counts at a path in the order of the verbs.
-/

namespace RouteDoc.OpenApi

/-- The verbs that stand for themselves, in the order in which they stand at a
path. -/
def singleVerbs : List String := ["GET", "PUT", "POST", "DELETE", "OPTIONS", "HEAD", "PATCH"]

/-- The declarations of a verb at a path, in the order in which they come. -/
def declarations (ds : List DocumentedRoute) (path verb : String) : List DocumentedRoute :=
  ds.filter fun d => normalizePath d.route.path == path && d.route.method == verb

/-- The declaration that counts for a verb at a path: the last one of the verb,
or else the last one of the verb for several if it stands for this one. -/
def governing (ds : List DocumentedRoute) (path verb : String) : Option DocumentedRoute :=
  (declarations ds path verb).getLast?.or
    (if verb ∈ anyVerbStandsFor then (declarations ds path anyVerb).getLast? else none)

/-- What counts at a path in the order of the verbs. -/
def governed (ds : List DocumentedRoute) (path : String) : Entries DocumentedRoute :=
  singleVerbs.filterMap fun verb => (governing ds path verb).map fun d => (verb, d)

theorem mem_declarations {ds : List DocumentedRoute} {path verb : String} {d : DocumentedRoute} :
    d ∈ declarations ds path verb ↔
      d ∈ ds ∧ normalizePath d.route.path = path ∧ d.route.method = verb := by
  simp [declarations]

theorem mem_governed {ds : List DocumentedRoute} {path verb : String} {d : DocumentedRoute} :
    (verb, d) ∈ governed ds path ↔ verb ∈ singleVerbs ∧ governing ds path verb = some d := by
  simp only [governed, List.mem_filterMap, Option.map_eq_some_iff, Prod.mk.injEq]
  constructor
  · rintro ⟨v, hv, e, he, rfl, rfl⟩
    exact ⟨hv, he⟩
  · rintro ⟨hv, hd⟩
    exact ⟨verb, hv, d, hd, rfl, rfl⟩

/-! ## Lookup of what counts -/

theorem get?_declaredVerbs (ds : List DocumentedRoute) (verb : String) :
    (declaredVerbs ds).get? verb =
      if verb = anyVerb then none else (ds.filter (·.route.method == verb)).getLast? := by
  have hmap : ((ds.filter (·.route.method != anyVerb)).map fun d => (d.route.method, d)).filter
      (·.1 == verb) = ((ds.filter fun d => d.route.method == verb && d.route.method != anyVerb).map
        fun d => (d.route.method, d)) := by
    rw [List.filter_map, List.filter_filter]
    rfl
  rw [declaredVerbs, Entries.get?_ofList, hmap, List.getLast?_map, Option.map_map]
  split
  · rename_i h
    rw [List.filter_eq_nil_iff.mpr fun d _ => by simp [h]]
    rfl
  · rename_i h
    rw [List.filter_congr fun d _ => show _ = (d.route.method == verb) by
      by_cases hd : d.route.method = verb <;> simp [hd, h]]
    exact Option.map_id'

theorem get?_declared (ds : List DocumentedRoute) {verb : String} (hv : verb ≠ anyVerb) :
    (declared ds).get? verb = (ds.filter (·.route.method == verb)).getLast?.or
      (if verb ∈ anyVerbStandsFor then (ds.filter (·.route.method == anyVerb)).getLast?
        else none) := by
  have hs := get?_declaredVerbs ds verb
  rw [if_neg hv] at hs
  rw [declared, declaredForAny]
  cases (ds.filter (·.route.method == anyVerb)).getLast? with
  | none => simp [hs]
  | some d =>
    rw [Entries.get?_append, Entries.get?_map_const, hs]
    cases hl : (ds.filter (·.route.method == verb)).getLast? with
    | some e => rfl
    | none =>
      have hf : (declaredVerbs ds).has verb = false := by
        rw [Bool.eq_false_iff, Ne, Entries.has_iff, ← Entries.get?_eq_none_iff, hs, hl]
      simp [hf]

theorem nodup_keys_declared (ds : List DocumentedRoute) :
    ((declared ds).map (·.1)).Nodup := by
  rw [declared]
  split
  · exact Entries.nodup_keys_ofList _
  · rw [List.map_append, Entries.keys_map_const, List.nodup_append]
    refine ⟨Entries.nodup_keys_ofList _, (show anyVerbStandsFor.Nodup by decide).filter _, ?_⟩
    rintro verb hs _ hf rfl
    have hnew := (List.mem_filter.mp hf).2
    rw [Entries.has_iff.mpr hs] at hnew
    cases hnew

/-- What stands under the verb for several is spread over the others. -/
theorem anyVerb_not_mem_keys_declared (ds : List DocumentedRoute) :
    anyVerb ∉ (declared ds).map (·.1) := by
  have hs : (declaredVerbs ds).get? anyVerb = none := by
    rw [get?_declaredVerbs, if_pos rfl]
  rw [← Entries.get?_eq_none_iff, declared]
  split
  · exact hs
  · rw [Entries.get?_append, Entries.get?_map_const, hs, if_neg]
    · rfl
    · exact fun h => absurd (List.mem_filter.mp h).1 (by decide)

theorem declaredAt_place (ds : List DocumentedRoute) (path : String) :
    declaredAt (place ds) path =
      declared (ds.filter fun d => normalizePath d.route.path == path) := by
  rw [declaredAt, place, List.filter_map, List.map_map]
  exact congrArg declared (List.map_id'' (fun _ => rfl) _)

theorem get?_declaredAt (ds : List DocumentedRoute) (path : String) {verb : String}
    (hv : verb ≠ anyVerb) : (declaredAt (place ds) path).get? verb = governing ds path verb := by
  have hf : ∀ verb, (ds.filter fun d => normalizePath d.route.path == path).filter
      (·.route.method == verb) = declarations ds path verb := fun verb => by
    rw [List.filter_filter, declarations]
    exact List.filter_congr fun d _ => Bool.and_comm ..
  rw [declaredAt_place, get?_declared _ hv, hf, hf, governing]

/-- What counts at a path was declared there. -/
theorem mem_of_mem_declaredAt {ds : List DocumentedRoute} {path verb : String}
    {d : DocumentedRoute} (h : (verb, d) ∈ declaredAt (place ds) path) :
    d ∈ ds ∧ normalizePath d.route.path = path := by
  have hdeclared : d ∈ ds.filter fun d => normalizePath d.route.path == path := by
    rw [declaredAt_place, declared] at h
    have hsingle : ∀ {ds : List DocumentedRoute}, (verb, d) ∈ declaredVerbs ds → d ∈ ds := by
      intro ds h
      obtain ⟨e, he, hd⟩ := List.mem_map.mp (Entries.mem_of_mem_ofList h)
      exact (Prod.mk.inj hd).2 ▸ (List.mem_filter.mp he).1
    split at h
    · exact hsingle h
    · rename_i e hany
      rcases List.mem_append.mp h with h | h
      · exact hsingle h
      · obtain ⟨_, -, hd⟩ := List.mem_map.mp h
        exact (Prod.mk.inj hd).2 ▸ (List.mem_filter.mp (List.mem_of_getLast? hany)).1
  simpa using hdeclared

/-! ## The order of the verbs -/

theorem mem_singleVerbs {verb : String} (h : verb ∈ verbs) (hv : verb ≠ anyVerb) :
    verb ∈ singleVerbs := by
  simp only [verbs, List.mem_cons, List.not_mem_nil, or_false] at h
  rcases h with rfl | rfl | rfl | rfl | rfl | rfl | rfl | rfl <;>
    first | decide | exact absurd rfl hv

variable {ds : List DocumentedRoute}

theorem mem_singleVerbs_of_governing (hds : ∀ d ∈ ds, d.route.method ∈ verbs) {path verb : String}
    {d : DocumentedRoute} (hv : verb ≠ anyVerb) (h : governing ds path verb = some d) :
    verb ∈ singleVerbs := by
  rw [governing, Option.or_eq_some_iff] at h
  rcases h with h | ⟨-, h⟩
  · obtain ⟨hd, -, rfl⟩ := mem_declarations.mp (List.mem_of_getLast? h)
    exact mem_singleVerbs (hds d hd) hv
  · split at h
    · rename_i hs
      exact (show ∀ v ∈ anyVerbStandsFor, v ∈ singleVerbs by decide) verb hs
    · cases h

theorem mem_declaredAt (hds : ∀ d ∈ ds, d.route.method ∈ verbs) {path verb : String}
    {d : DocumentedRoute} :
    (verb, d) ∈ declaredAt (place ds) path ↔ verb ∈ singleVerbs ∧ governing ds path verb = some d := by
  have hn := nodup_keys_declared (ds.filter fun d => normalizePath d.route.path == path)
  rw [← declaredAt_place] at hn
  rw [Entries.mem_iff_get? hn]
  by_cases hv : verb = anyVerb
  · have hnone : (declaredAt (place ds) path).get? anyVerb = none := by
      rw [declaredAt_place]
      exact Entries.get?_eq_none_iff.mpr (anyVerb_not_mem_keys_declared _)
    rw [hv, hnone]
    constructor
    · rintro ⟨⟩
    · exact fun h => absurd h.1 (by decide)
  · rw [get?_declaredAt ds path hv]
    exact ⟨fun h => ⟨mem_singleVerbs_of_governing hds hv h, h⟩, fun h => h.2⟩

theorem pairwise_governed (ds : List DocumentedRoute) (path : String) :
    (governed ds path).Pairwise fun a b =>
      (verbRank? a.1).getD 0 < (verbRank? b.1).getD 0 := by
  have hs : singleVerbs.Pairwise fun a b => (verbRank? a).getD 0 < (verbRank? b).getD 0 := by
    decide
  refine List.Pairwise.filterMap _ (fun a b hab x hx y hy => ?_) hs
  obtain ⟨d, -, rfl⟩ := Option.map_eq_some_iff.mp hx
  obtain ⟨e, -, rfl⟩ := Option.map_eq_some_iff.mp hy
  exact hab

theorem verbRank?_inj : ∀ a ∈ singleVerbs, ∀ b ∈ singleVerbs,
    (verbRank? a).getD 0 = (verbRank? b).getD 0 → a = b := by decide

theorem declaredAt_perm_governed (hds : ∀ d ∈ ds, d.route.method ∈ verbs) (path : String) :
    (declaredAt (place ds) path).Perm (governed ds path) := by
  refine (List.perm_ext_iff_of_nodup ?_ ?_).mpr fun op => ?_
  · rw [declaredAt_place]
    exact (nodup_keys_declared _).of_map _
  · refine (pairwise_governed ds path).imp ?_
    rintro a _ h rfl
    exact Nat.lt_irrefl _ h
  · rw [mem_governed, ← mem_declaredAt hds]

/-- What counts at a path has a place for each of its verbs, and stands in
their order. -/
theorem inVerbOrder?_declaredAt (hds : ∀ d ∈ ds, d.route.method ∈ verbs) (path : String) :
    inVerbOrder? (declaredAt (place ds) path) = some (governed ds path) := by
  have hrank : ∀ verb ∈ singleVerbs, (verbRank? verb).isSome := by decide
  have hperm := declaredAt_perm_governed hds path
  rw [inVerbOrder?, if_pos (List.all_eq_true.mpr fun op hop =>
    hrank _ ((mem_declaredAt hds).mp hop).1)]
  have hsorted := @List.pairwise_mergeSort (String × DocumentedRoute)
    (fun a b => decide ((verbRank? a.1).getD 0 ≤ (verbRank? b.1).getD 0))
    (by simpa using fun _ _ _ => Nat.le_trans) (by simpa using fun _ _ => Nat.le_total _ _)
    (declaredAt (place ds) path)
  refine congrArg some (List.Perm.eq_of_pairwise (fun a b ha hb hab hba => ?_) hsorted
    ((pairwise_governed ds path).imp fun h => decide_eq_true (Nat.le_of_lt h))
    ((List.mergeSort_perm _ _).trans hperm))
  -- Two verbs of the same rank are the same, and for a verb one declaration counts.
  obtain ⟨hva, hda⟩ := mem_governed.mp (hperm.mem_iff.mp (List.mem_mergeSort.mp ha))
  obtain ⟨hvb, hdb⟩ := mem_governed.mp hb
  have hv : a.1 = b.1 := verbRank?_inj _ hva _ hvb
    (Nat.le_antisymm (of_decide_eq_true hab) (of_decide_eq_true hba))
  rw [hv, hdb] at hda
  exact Prod.ext hv (Option.some.inj hda).symm

end RouteDoc.OpenApi
