import Mathlib.Data.List.Nodup
import RouteDoc.Proofs.OpenApi.Assembled

/-!
# Identifiers of operations

An identifier that was used before takes a number. It is then told from the
others that take one, but not from an identifier that ends in the same number by
itself.

* `nodup_numberAll_iff`: when identifiers differ once they are numbered;
* `operationIds_assembled`: the identifiers of a document;
* `nodup_operationIds_iff`: when they differ.
-/

namespace RouteDoc.OpenApi

/-- The `n`-th use of an identifier. -/
def numberedForm (id : String) (n : Nat) : String :=
  if n ≤ 1 then id else id ++ "_" ++ toString n

/-- Identifiers with their numbers, after those in `used`. -/
def numberAll (used : List String) : List String → List String
  | [] => []
  | id :: ids => numbered used id :: numberAll (id :: used) ids

/-- Identifiers with the count of their uses so far. -/
def occurrences (used : List String) : List String → List (String × Nat)
  | [] => []
  | id :: ids => (id, used.count id + 1) :: occurrences (id :: used) ids

theorem numbered_eq (used : List String) (id : String) :
    numbered used id = numberedForm id (used.count id + 1) := by
  rw [numbered, numberedForm]
  split
  · rename_i h
    rw [h, if_pos (Nat.le_refl _)]
  · rename_i n h
    rw [h, if_neg (by omega)]

theorem numberAll_eq (used ids : List String) :
    numberAll used ids = (occurrences used ids).map fun o => numberedForm o.1 o.2 := by
  induction ids generalizing used with
  | nil => rfl
  | cons id ids ih => rw [numberAll, occurrences, List.map_cons, numbered_eq, ih]

theorem mem_occurrences {used ids : List String} {id : String} {n : Nat} :
    (id, n) ∈ occurrences used ids ↔ used.count id < n ∧ n ≤ used.count id + ids.count id := by
  induction ids generalizing used with
  | nil =>
    rw [occurrences, List.count_nil]
    constructor
    · intro h
      cases h
    · intro h
      omega
  | cons a ids ih =>
    rw [occurrences, List.mem_cons, ih, Prod.mk.injEq, List.count_cons, List.count_cons]
    by_cases h : a = id
    · subst h
      simp only [beq_self_eq_true, if_true, true_and]
      omega
    · simp only [beq_eq_false_iff_ne.mpr h, Bool.false_eq_true, if_false, Ne.symm h, false_and,
        false_or, Nat.add_zero]

theorem nodup_occurrences (used ids : List String) : (occurrences used ids).Nodup := by
  induction ids generalizing used with
  | nil => exact List.nodup_nil
  | cons a ids ih =>
    refine List.nodup_cons.mpr ⟨fun h => ?_, ih (a :: used)⟩
    have := (mem_occurrences.mp h).1
    rw [List.count_cons_self] at this
    exact Nat.lt_irrefl _ this

/-! ## Numbers at the end -/

/-- A text is cut in one way at the last underscore. -/
theorem append_underscore_inj {as bs ds es : List Char} (hd : '_' ∉ ds) (he : '_' ∉ es)
    (h : as ++ '_' :: ds = bs ++ '_' :: es) : as = bs ∧ ds = es := by
  rcases List.append_eq_append_iff.mp h with ⟨cs, rfl, hc⟩ | ⟨cs, rfl, hc⟩
  · cases cs with
    | nil => exact ⟨(List.append_nil as).symm, (List.cons.inj hc).2⟩
    | cons c cs =>
      obtain ⟨-, rfl⟩ := List.cons.inj hc
      exact absurd (List.mem_append_right cs List.mem_cons_self) hd
  · cases cs with
    | nil => exact ⟨List.append_nil bs, ((List.cons.inj hc).2).symm⟩
    | cons c cs =>
      obtain ⟨-, rfl⟩ := List.cons.inj hc
      exact absurd (List.mem_append_right cs List.mem_cons_self) he

theorem numberedForm_inj {a b : String} {m n : Nat} (hm : 2 ≤ m) (hn : 2 ≤ n)
    (h : numberedForm a m = numberedForm b n) : a = b ∧ m = n := by
  rw [numberedForm, numberedForm, if_neg (by omega), if_neg (by omega)] at h
  have hl := congrArg String.toList h
  simp only [String.toList_append, Nat.toString_eq_repr, Nat.toList_repr, List.append_assoc] at hl
  obtain ⟨hab, hmn⟩ := append_underscore_inj Nat.underscore_not_in_toDigits
    Nat.underscore_not_in_toDigits hl
  refine ⟨String.toList_inj.mp hab, ?_⟩
  rw [← @Nat.ofDigitChars_ten_toDigits m, hmn, Nat.ofDigitChars_ten_toDigits]

/-- Numbered identifiers differ unless one that is used `n` times has a numbered
form, up to the `n`-th, among the identifiers themselves. -/
theorem nodup_numberAll_iff (ids : List String) :
    (numberAll [] ids).Nodup ↔
      ∀ id ∈ ids, ∀ n, 2 ≤ n → n ≤ ids.count id → numberedForm id n ∉ ids := by
  have hmem : ∀ {id n}, (id, n) ∈ occurrences [] ids ↔ 1 ≤ n ∧ n ≤ ids.count id := by
    intro id n
    rw [mem_occurrences, List.count_nil, Nat.zero_add]
    rfl
  rw [numberAll_eq, List.nodup_map_iff_inj_on (nodup_occurrences [] ids)]
  constructor
  · intro hinj id _ n hn hle hm
    have hone : (numberedForm id n, 1) ∈ occurrences [] ids :=
      hmem.mpr ⟨Nat.le_refl 1, List.count_pos_iff.mpr hm⟩
    have heq := hinj (id, n) (hmem.mpr ⟨by omega, hle⟩) _ hone rfl
    have := congrArg Prod.snd heq
    omega
  · rintro hfree ⟨a, m⟩ ha ⟨b, n⟩ hb h
    obtain ⟨hm, hma⟩ := hmem.mp ha
    obtain ⟨hn, hnb⟩ := hmem.mp hb
    -- Of two uses with one form, either both are first uses, or both are later ones,
    -- or the later one has taken an identifier that `hfree` excludes.
    have hmema : a ∈ ids := List.count_pos_iff.mp (by omega)
    have hmemb : b ∈ ids := List.count_pos_iff.mp (by omega)
    by_cases hm1 : m = 1
    · by_cases hn1 : n = 1
      · subst hm1 hn1
        exact Prod.ext h rfl
      · subst hm1
        exact absurd (h ▸ hmema) (hfree b hmemb n (by omega) hnb)
    · by_cases hn1 : n = 1
      · subst hn1
        exact absurd (h.symm ▸ hmemb) (hfree a hmema m (by omega) hma)
      · obtain ⟨hab, hmn⟩ := numberedForm_inj (by omega) (by omega) h
        exact Prod.ext hab hmn

/-! ## The identifiers of a document -/

/-- The identifiers of the operations of a document, in order. -/
def Document.operationIds (doc : Document) : List String :=
  doc.paths.flatMap fun e => e.2.map (·.2.id)

/-- The identifiers of what routes offer before they are numbered, paths and
verbs in order. -/
def baseIds (ds : List DocumentedRoute) : List String :=
  (pathsOf (place ds)).flatMap fun path =>
    (singleVerbs.filter (Offers ds path ·)).map fun verb => operationId verb path

theorem id_describe (p : Progress) (s : Slot) : (p.describe s).1.id = numbered p.ids s.baseId := rfl

theorem ids_describe (p : Progress) (s : Slot) : (p.describe s).2.ids = s.baseId :: p.ids := rfl

theorem ids_describeSlots (p : Progress) (ss : List Slot) :
    (describeSlots p ss).1.map (·.2.id) = numberAll p.ids (ss.map Slot.baseId) := by
  induction ss generalizing p with
  | nil => rfl
  | cons s ss ih =>
    rw [describeSlots, List.map_cons, ih, id_describe, ids_describe]
    rfl

theorem ids_flatten (doc : Document) : (flatten doc.paths).map (·.2.2.id) = doc.operationIds := by
  rw [flatten, List.map_flatMap]
  refine List.flatMap_congr fun e _ => ?_
  rw [List.map_map]
  rfl

theorem baseIds_slots (ds : List DocumentedRoute) : (slots ds).map Slot.baseId = baseIds ds := by
  rw [slots, slotsOf, governedPaths, List.flatMap_map, List.map_flatMap, baseIds]
  refine List.flatMap_congr fun path _ => ?_
  have hoffer : singleVerbs.filter (Offers ds path ·) = (governed ds path).map (·.1) := by
    rw [map_fst_governed]
    refine List.filter_congr fun verb _ => ?_
    rw [Bool.eq_iff_iff, decide_eq_true_iff]
    exact isSome_governing.symm
  rw [hoffer, slotsAt, List.map_map, List.map_map]
  rfl

theorem operationIds_assembled (info : DocumentInfo) (frameworks : List String)
    {ds : List DocumentedRoute} (hds : ∀ d ∈ ds, d.route.method ∈ verbs) :
    (assembled info frameworks ds).operationIds = numberAll [] (baseIds ds) := by
  rw [← ids_flatten, (assembled_paths hds info frameworks).2.1, List.map_map, ← baseIds_slots]
  exact ids_describeSlots {} (slots ds)

/-- Routes with known verbs have a document. Its identifiers differ exactly where
no identifier that several operations share has one of its numbered forms among
the identifiers without a number. -/
theorem nodup_operationIds_iff (info : DocumentInfo) (frameworks : List String)
    {ds : List DocumentedRoute} (hds : ∀ d ∈ ds, d.route.method ∈ verbs) :
    ∃ doc reports, assemble info frameworks ds = .ok (doc, reports) ∧
      (doc.operationIds.Nodup ↔
        ∀ id ∈ baseIds ds, ∀ n, 2 ≤ n → n ≤ (baseIds ds).count id →
          numberedForm id n ∉ baseIds ds) := by
  refine ⟨_, _, assemble_eq hds info frameworks, ?_⟩
  rw [operationIds_assembled info frameworks hds]
  exact nodup_numberAll_iff (baseIds ds)

/-- Two paths with one identifier. -/
theorem nodup_operationIds_shared :
    (∀ d ∈ [bareRoute "GET" "/a-b", bareRoute "GET" "/a_b"], d.route.method ∈ verbs) ∧
      ∃ doc reports,
        assemble {} [] [bareRoute "GET" "/a-b", bareRoute "GET" "/a_b"] = .ok (doc, reports) ∧
          doc.operationIds.Nodup := by
  have hds : ∀ d ∈ [bareRoute "GET" "/a-b", bareRoute "GET" "/a_b"], d.route.method ∈ verbs := by
    decide
  have hpaths : pathsOf (place [bareRoute "GET" "/a-b", bareRoute "GET" "/a_b"]) =
      ["/a-b", "/a_b"] := sortedDistinct_eq (by decide) (by decide)
  have hids : baseIds [bareRoute "GET" "/a-b", bareRoute "GET" "/a_b"] = ["get_a_b", "get_a_b"] := by
    rw [baseIds, hpaths]
    decide
  obtain ⟨doc, reports, hok, hnodup⟩ := nodup_operationIds_iff {} [] hds
  refine ⟨hds, doc, reports, hok, hnodup.mpr ?_⟩
  rw [hids]
  intro id hid n hn hle
  obtain rfl : id = "get_a_b" := by simpa using hid
  obtain rfl : n = 2 := by
    have : ["get_a_b", "get_a_b"].count "get_a_b" = 2 := by decide
    omega
  decide

/-- Two paths with one identifier, and a third that ends in the number which the
second of them takes. -/
theorem operationIds_collide :
    ∃ doc reports,
      assemble {} [] [bareRoute "GET" "/users", bareRoute "GET" "/Users",
          bareRoute "GET" "/users/2"] = .ok (doc, reports) ∧
        doc.operationIds = ["get_users", "get_users_2", "get_users_2"] ∧
        ¬doc.operationIds.Nodup := by
  have hds : ∀ d ∈ [bareRoute "GET" "/users", bareRoute "GET" "/Users",
      bareRoute "GET" "/users/2"], d.route.method ∈ verbs := by decide
  have hpaths : pathsOf (place [bareRoute "GET" "/users", bareRoute "GET" "/Users",
      bareRoute "GET" "/users/2"]) = ["/Users", "/users", "/users/2"] :=
    sortedDistinct_eq (by decide) (by decide)
  have hbase : baseIds [bareRoute "GET" "/users", bareRoute "GET" "/Users",
      bareRoute "GET" "/users/2"] = ["get_users", "get_users", "get_users_2"] := by
    rw [baseIds, hpaths]
    decide
  have hids := operationIds_assembled {} [] hds
  rw [hbase] at hids
  refine ⟨_, _, assemble_eq hds {} [], hids.trans (by decide), ?_⟩
  rw [hids]
  decide

end RouteDoc.OpenApi
