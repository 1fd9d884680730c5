import Mathlib.Data.List.Nodup
import RouteDoc.Entries

/-!
# Lookup in entries

* `Entries.get?_put`, `Entries.mem_keys_put`: what an update does to the values and
  to the names;
* `Entries.get?_ofList`, `Entries.nodup_keys_ofList`: of the values that a list
  gives for a name the last one counts, and each name stands once;
* `Entries.mem_iff_get?`: where each name stands once, entries are lookups.
-/

namespace RouteDoc.Entries

variable {α : Type}

@[simp] theorem get?_nil (key : String) : get? ([] : Entries α) key = none := rfl

theorem get?_cons (name key : String) (value : α) (entries : Entries α) :
    get? ((name, value) :: entries) key = if name = key then some value else get? entries key := by
  rw [get?, List.find?_cons]
  by_cases h : name = key
  · rw [if_pos h, beq_iff_eq.mpr h]
    rfl
  · rw [if_neg h, beq_eq_false_iff_ne.mpr h]
    rfl

theorem get?_put (entries : Entries α) (name key : String) (value : α) :
    (entries.put name value).get? key = if name = key then some value else entries.get? key := by
  induction entries with
  | nil => rw [put, get?_cons]
  | cons e rest ih =>
    obtain ⟨n, v⟩ := e
    rw [put]
    split
    · rename_i h
      rw [beq_iff_eq] at h
      rw [get?_cons, get?_cons, h]
      split <;> rfl
    · rename_i h
      rw [beq_iff_eq] at h
      rw [get?_cons, get?_cons, ih]
      split
      · rename_i h'
        rw [if_neg fun e => h (h'.trans e.symm)]
      · rfl

theorem mem_keys_put {entries : Entries α} {name key : String} {value : α} :
    key ∈ (entries.put name value).map (·.1) ↔ key = name ∨ key ∈ entries.map (·.1) := by
  induction entries with
  | nil => simp [put]
  | cons e rest ih =>
    rw [put]
    split
    · rename_i h
      simp [beq_iff_eq.mp h]
    · simp only [List.map_cons, List.mem_cons, ih]
      exact or_left_comm

theorem mem_of_mem_put {entries : Entries α} {name : String} {value : α} {e : String × α}
    (h : e ∈ entries.put name value) : e ∈ entries ∨ e = (name, value) := by
  induction entries with
  | nil => exact .inr (List.mem_singleton.mp h)
  | cons first rest ih =>
    rw [put] at h
    split at h
    · rename_i hname
      rcases List.mem_cons.mp h with rfl | h
      · exact .inr (Prod.ext (beq_iff_eq.mp hname) rfl)
      · exact .inl (List.mem_cons_of_mem _ h)
    · rcases List.mem_cons.mp h with rfl | h
      · exact .inl List.mem_cons_self
      · exact (ih h).imp_left (List.mem_cons_of_mem _)

/-- A name that is not there yet comes last. -/
theorem put_of_not_mem {entries : Entries α} {name : String} (value : α)
    (h : name ∉ entries.map (·.1)) : entries.put name value = entries ++ [(name, value)] := by
  induction entries with
  | nil => rfl
  | cons e rest ih =>
    simp only [List.map_cons, List.mem_cons, not_or] at h
    rw [put, if_neg (by simpa using Ne.symm h.1), ih h.2, List.cons_append]

theorem nodup_keys_put {entries : Entries α} (name : String) (value : α)
    (h : (entries.map (·.1)).Nodup) : ((entries.put name value).map (·.1)).Nodup := by
  induction entries with
  | nil => exact List.nodup_singleton name
  | cons e rest ih =>
    simp only [List.map_cons, List.nodup_cons] at h
    rw [put]
    split
    · exact List.nodup_cons.mpr h
    · rename_i hne
      refine List.nodup_cons.mpr ⟨fun hm => ?_, ih h.2⟩
      rcases mem_keys_put.mp hm with he | hm
      · exact hne (beq_iff_eq.mpr he)
      · exact h.1 hm

/-- Entries put after others. -/
theorem get?_foldl_put (entries acc : Entries α) (key : String) :
    (entries.foldl (fun acc e => acc.put e.1 e.2) acc).get? key =
      (((entries.filter (·.1 == key)).getLast?).map (·.2)).or (acc.get? key) := by
  induction entries generalizing acc with
  | nil => rfl
  | cons e rest ih =>
    rw [List.foldl_cons, ih, get?_put, List.filter_cons]
    by_cases h : e.1 = key
    · rw [if_pos h, if_pos (beq_iff_eq.mpr h), List.getLast?_cons]
      cases (rest.filter (·.1 == key)).getLast? <;> rfl
    · rw [if_neg h, if_neg (mt beq_iff_eq.mp h)]

/-- Of the values that a list gives for a name the last one counts. -/
theorem get?_ofList (entries : List (String × α)) (key : String) :
    (ofList entries).get? key = ((entries.filter (·.1 == key)).getLast?).map (·.2) := by
  rw [ofList, get?_foldl_put, get?_nil, Option.or_none]

/-- Entries whose names are distinct stay as they are. -/
theorem ofList_of_nodup {entries : List (String × α)} (h : (entries.map (·.1)).Nodup) :
    ofList entries = entries := by
  have hfold : ∀ acc : Entries α, ((acc ++ entries).map (·.1)).Nodup →
      entries.foldl (fun acc e => acc.put e.1 e.2) acc = acc ++ entries := by
    clear h
    induction entries with
    | nil => exact fun acc _ => (List.append_nil acc).symm
    | cons e rest ih =>
      intro acc h
      have hnot : e.1 ∉ acc.map (·.1) := fun hmem => by
        rw [List.map_append] at h
        exact (List.nodup_append.mp h).2.2 _ hmem _ List.mem_cons_self rfl
      have hsplit : acc ++ e :: rest = acc ++ [(e.1, e.2)] ++ rest := by simp
      rw [List.foldl_cons, put_of_not_mem e.2 hnot, hsplit]
      exact ih _ (hsplit ▸ h)
  exact hfold [] h

theorem nodup_keys_ofList (entries : List (String × α)) :
    ((ofList entries).map (·.1)).Nodup := by
  have step : ∀ acc : Entries α, (acc.map (·.1)).Nodup →
      ((entries.foldl (fun acc e => acc.put e.1 e.2) acc).map (·.1)).Nodup := by
    induction entries with
    | nil => exact fun _ h => h
    | cons e rest ih => exact fun acc h => ih _ (nodup_keys_put e.1 e.2 h)
  exact step [] List.nodup_nil

theorem has_iff {entries : Entries α} {name : String} :
    entries.has name = true ↔ name ∈ entries.map (·.1) := by
  simp [has]

theorem get?_eq_none_iff {entries : Entries α} {key : String} :
    entries.get? key = none ↔ key ∉ entries.map (·.1) := by
  rw [get?, Option.map_eq_none_iff, List.find?_eq_none, List.mem_map]
  exact ⟨fun h ⟨e, he, hk⟩ => h e he (beq_iff_eq.mpr hk),
    fun h e he hk => h ⟨e, he, beq_iff_eq.mp hk⟩⟩

/-- Where each name stands once, entries are lookups. -/
theorem mem_iff_get? {entries : Entries α} (h : (entries.map (·.1)).Nodup) {key : String}
    {value : α} : (key, value) ∈ entries ↔ entries.get? key = some value := by
  induction entries with
  | nil => simp
  | cons e rest ih =>
    obtain ⟨n, v⟩ := e
    simp only [List.map_cons, List.nodup_cons] at h
    rw [List.mem_cons, get?_cons, ih h.2]
    by_cases hn : n = key
    · subst hn
      have : get? rest n = none := get?_eq_none_iff.mpr h.1
      simp [this, eq_comm]
    · simp [hn, Ne.symm hn]

theorem mem_of_mem_ofList {entries : List (String × α)} {e : String × α}
    (h : e ∈ ofList entries) : e ∈ entries := by
  have hget := (mem_iff_get? (nodup_keys_ofList entries)).mp h
  rw [get?_ofList] at hget
  obtain ⟨e', he', hvalue⟩ := Option.map_eq_some_iff.mp hget
  obtain ⟨hmem, hkey⟩ := List.mem_filter.mp (List.mem_of_getLast? he')
  exact (Prod.ext (beq_iff_eq.mp hkey) hvalue : e' = e) ▸ hmem

theorem get?_append (xs ys : Entries α) (key : String) :
    get? (xs ++ ys) key = (xs.get? key).or (ys.get? key) := by
  simp only [get?, List.find?_append]
  cases xs.find? (·.1 == key) <;> rfl

/-- Lookup among entries of which the values were mapped. -/
theorem get?_map {β : Type} (f : α → β) (entries : Entries α) (key : String) :
    get? (entries.map fun e => (e.1, f e.2)) key = (get? entries key).map f := by
  induction entries with
  | nil => rfl
  | cons e entries ih =>
    rw [List.map_cons, get?_cons, get?_cons, ih]
    split <;> rfl

theorem keys_map_const (names : List String) (value : α) :
    (names.map fun name => (name, value)).map (·.1) = names := by
  rw [List.map_map]
  exact List.map_id'' (fun _ => rfl) names

/-- Several names for one value. -/
theorem get?_map_const (names : List String) (value : α) (key : String) :
    get? (names.map fun name => (name, value)) key =
      if key ∈ names then some value else none := by
  induction names with
  | nil => rfl
  | cons name names ih =>
    rw [List.map_cons, get?_cons, ih]
    by_cases h : name = key
    · simp [h]
    · simp [h, Ne.symm h]

end RouteDoc.Entries
