import RouteDoc.Proofs.Entries
import RouteDoc.OpenApi.Document

/-!
# Operations one after another

Operations are described path by path and verb by verb, and grouped on the way.
Taken out of their groups they come from one run over a list of slots.

* `describeSlots`: the run, with `mem_describeSlots` for what it gives;
* `describeVerbs_eq`, `describePaths_eq`: the operations at a path and at all
  paths are those of the run.
-/

namespace RouteDoc.OpenApi

/-- A verb at a path with the route that counts there. -/
structure Slot where
  path : String
  verb : String
  route : DocumentedRoute

/-- The identifier of a slot without a number. -/
def Slot.baseId (s : Slot) : String := operationId s.verb s.path

/-- The operation of a slot, and what has been used with it. -/
def Progress.describe (p : Progress) (s : Slot) : Operation × Progress :=
  let r := describeOperation p.schemas (numbered p.ids s.baseId) s.verb s.route
  (r.1, ⟨r.2, s.baseId :: p.ids⟩)

/-- The operations of slots, one after another. -/
def describeSlots (p : Progress) : List Slot → List (Slot × Operation) × Progress
  | [] => ([], p)
  | s :: rest =>
    let r := describeSlots (p.describe s).2 rest
    ((s, (p.describe s).1) :: r.1, r.2)

/-- The slots at a path. -/
def slotsAt (path : String) (ops : Entries DocumentedRoute) : List Slot :=
  ops.map fun op => ⟨path, op.1, op.2⟩

/-- The slots at all paths. -/
def slotsOf (l : List (String × Entries DocumentedRoute)) : List Slot :=
  l.flatMap fun e => slotsAt e.1 e.2

theorem describeSlots_append (p : Progress) (xs ys : List Slot) :
    describeSlots p (xs ++ ys) =
      ((describeSlots p xs).1 ++ (describeSlots (describeSlots p xs).2 ys).1,
        (describeSlots (describeSlots p xs).2 ys).2) := by
  induction xs generalizing p with
  | nil => rfl
  | cons s xs ih => rw [List.cons_append, describeSlots, ih]; rfl

theorem mem_describeSlots {p : Progress} {ss : List Slot} {s : Slot} {o : Operation}
    (h : (s, o) ∈ (describeSlots p ss).1) : s ∈ ss ∧ ∃ q : Progress, o = (q.describe s).1 := by
  induction ss generalizing p with
  | nil => cases h
  | cons t ss ih =>
    rcases List.mem_cons.mp h with h | h
    · obtain ⟨rfl, rfl⟩ := Prod.mk.inj h
      exact ⟨List.mem_cons_self, p, rfl⟩
    · obtain ⟨hs, hq⟩ := ih h
      exact ⟨List.mem_cons_of_mem t hs, hq⟩

theorem map_fst_describeSlots (p : Progress) (ss : List Slot) :
    (describeSlots p ss).1.map (·.1) = ss := by
  induction ss generalizing p with
  | nil => rfl
  | cons s ss ih => rw [describeSlots, List.map_cons, ih]

/-! ## The operations in their groups -/

/-- The operation of a slot under the name of its verb. -/
def verbEntry (r : Slot × Operation) : String × Operation := (Text.lower r.1.verb, r.2)

theorem describeVerbs_cons (path verb : String) (d : DocumentedRoute) (p : Progress)
    (ops : Entries DocumentedRoute) (done : Entries Operation) :
    describeVerbs path p ((verb, d) :: ops) done =
      describeVerbs path (p.describe ⟨path, verb, d⟩).2 ops
        (done.put (Text.lower verb) (p.describe ⟨path, verb, d⟩).1) := rfl

theorem describePaths_cons (path : String) (ops : Entries DocumentedRoute) (p : Progress)
    (l : List (String × Entries DocumentedRoute)) :
    describePaths p ((path, ops) :: l) =
      let item := describeVerbs path p ops []
      let items := describePaths item.2 l
      (if item.1.isEmpty then items.1 else (path, item.1) :: items.1, items.2) := rfl

/-- The operations at a path: `done` are those described before. -/
theorem describeVerbs_eq (path : String) (p : Progress) (ops : Entries DocumentedRoute)
    (done : Entries Operation)
    (h : (done.map (·.1) ++ ops.map fun op => Text.lower op.1).Nodup) :
    describeVerbs path p ops done =
      (done ++ (describeSlots p (slotsAt path ops)).1.map verbEntry,
        (describeSlots p (slotsAt path ops)).2) := by
  induction ops generalizing p done with
  | nil => rw [describeVerbs]; exact congrArg (·, p) (List.append_nil done).symm
  | cons op ops ih =>
    obtain ⟨verb, d⟩ := op
    have hnew : Text.lower verb ∉ done.map (·.1) := fun hm =>
      (List.nodup_append.mp h).2.2 _ hm _ List.mem_cons_self rfl
    rw [describeVerbs_cons, Entries.put_of_not_mem _ hnew, ih]
    · rw [List.append_assoc]
      rfl
    · rw [List.map_append, List.append_assoc]
      exact h

theorem keys_describeSlots (path : String) (p : Progress) (ops : Entries DocumentedRoute) :
    ((describeSlots p (slotsAt path ops)).1.map verbEntry).map (·.1) =
      ops.map fun op => Text.lower op.1 := by
  have h := congrArg (List.map fun s => Text.lower s.verb)
    (map_fst_describeSlots p (slotsAt path ops))
  rw [List.map_map, slotsAt, List.map_map] at h
  rw [List.map_map]
  exact h

/-- The operations of a document with their paths and the names of their
verbs. -/
def flatten (paths : Entries (Entries Operation)) : List (String × String × Operation) :=
  paths.flatMap fun e => e.2.map fun o => (e.1, o.1, o.2)

/-- The operations at all paths. -/
theorem describePaths_eq (p : Progress) {l : List (String × Entries DocumentedRoute)}
    (h : ∀ e ∈ l, e.2 ≠ [] ∧ (e.2.map fun op => Text.lower op.1).Nodup) :
    (describePaths p l).2 = (describeSlots p (slotsOf l)).2 ∧
      flatten (describePaths p l).1 =
        (describeSlots p (slotsOf l)).1.map (fun r => (r.1.path, verbEntry r)) ∧
      (describePaths p l).1.map (fun e => (e.1, e.2.map (·.1))) =
        l.map fun e => (e.1, e.2.map fun op => Text.lower op.1) := by
  induction l generalizing p with
  | nil => exact ⟨rfl, rfl, rfl⟩
  | cons e l ih =>
    obtain ⟨path, ops⟩ := e
    obtain ⟨hne, hnodup⟩ := h (path, ops) List.mem_cons_self
    have hverbs := describeVerbs_eq path p ops [] hnodup
    have hkeys := keys_describeSlots path p ops
    have hitem : ((describeSlots p (slotsAt path ops)).1.map verbEntry).isEmpty = false := by
      rw [List.isEmpty_eq_false_iff]
      rintro he
      rw [he] at hkeys
      exact hne (List.map_eq_nil_iff.mp hkeys.symm)
    obtain ⟨hprogress, hflat, hnames⟩ := ih (describeSlots p (slotsAt path ops)).2
      fun e he => h e (List.mem_cons_of_mem _ he)
    have hslots : slotsOf ((path, ops) :: l) = slotsAt path ops ++ slotsOf l := rfl
    rw [describePaths_cons, hverbs, hslots, describeSlots_append]
    simp only [List.nil_append, hitem, Bool.false_eq_true, if_false]
    refine ⟨hprogress, ?_, ?_⟩
    · rw [flatten, List.flatMap_cons, ← flatten, hflat, List.map_append, List.map_map]
      refine congrArg (· ++ _) (List.map_congr_left fun r hr => ?_)
      obtain ⟨op, -, hop⟩ := List.mem_map.mp (mem_describeSlots hr).1
      rw [← hop]
      rfl
    · rw [List.map_cons, List.map_cons, hnames, hkeys]

/-! ## Where operations come from -/

/-- Whatever the verbs at a path are, describing them is part of the run, and each
operation there is of the run. -/
theorem describeVerbs_slots (path : String) (p : Progress) (ops : Entries DocumentedRoute)
    (done : Entries Operation) :
    (describeVerbs path p ops done).2 = (describeSlots p (slotsAt path ops)).2 ∧
      ∀ e ∈ (describeVerbs path p ops done).1,
        e ∈ done ∨ ∃ r ∈ (describeSlots p (slotsAt path ops)).1, verbEntry r = e := by
  induction ops generalizing p done with
  | nil => exact ⟨rfl, fun _ he => .inl he⟩
  | cons op ops ih =>
    obtain ⟨verb, d⟩ := op
    rw [describeVerbs_cons]
    obtain ⟨hprogress, hentries⟩ := ih (p.describe ⟨path, verb, d⟩).2
      (done.put (Text.lower verb) (p.describe ⟨path, verb, d⟩).1)
    refine ⟨hprogress, fun e he => ?_⟩
    rcases hentries e he with h | ⟨r, hr, h⟩
    · rcases Entries.mem_of_mem_put h with h | rfl
      · exact .inl h
      · exact .inr ⟨_, List.mem_cons_self, rfl⟩
    · exact .inr ⟨r, List.mem_cons_of_mem _ hr, h⟩

/-- Whatever the verbs at the paths are, each operation is of the run over their
slots. -/
theorem describePaths_slots (p : Progress) (l : List (String × Entries DocumentedRoute)) :
    (describePaths p l).2 = (describeSlots p (slotsOf l)).2 ∧
      ∀ path item, (path, item) ∈ (describePaths p l).1 → ∀ e ∈ item,
        ∃ r ∈ (describeSlots p (slotsOf l)).1, r.1.path = path ∧ verbEntry r = e := by
  induction l generalizing p with
  | nil => exact ⟨rfl, fun _ _ h => nomatch h⟩
  | cons first l ih =>
    obtain ⟨path, ops⟩ := first
    obtain ⟨hverbs, hentries⟩ := describeVerbs_slots path p ops []
    obtain ⟨hprogress, hitems⟩ := ih (describeSlots p (slotsAt path ops)).2
    have hslots : slotsOf ((path, ops) :: l) = slotsAt path ops ++ slotsOf l := rfl
    have hcons : ∀ path' item, (path', item) ∈ (describePaths p ((path, ops) :: l)).1 →
        (path', item) = (path, (describeVerbs path p ops []).1) ∨
          (path', item) ∈ (describePaths (describeSlots p (slotsAt path ops)).2 l).1 := by
      intro path' item h
      rw [describePaths_cons] at h
      dsimp only at h
      rw [hverbs] at h
      split at h
      · exact .inr h
      · exact List.mem_cons.mp h
    rw [hslots, describeSlots_append]
    refine ⟨?_, fun path' item hitem e he => ?_⟩
    · rw [describePaths_cons]
      dsimp only
      rw [hverbs, hprogress]
    · rcases hcons path' item hitem with h | h
      · obtain ⟨rfl, rfl⟩ := Prod.mk.inj h
        rcases hentries e he with h | ⟨r, hr, h⟩
        · cases h
        · obtain ⟨op, -, hop⟩ := List.mem_map.mp (mem_describeSlots hr).1
          exact ⟨r, List.mem_append_left _ hr, hop ▸ rfl, h⟩
      · obtain ⟨r, hr, hpath, h⟩ := hitems path' item h e he
        exact ⟨r, List.mem_append_right _ hr, hpath, h⟩

end RouteDoc.OpenApi
