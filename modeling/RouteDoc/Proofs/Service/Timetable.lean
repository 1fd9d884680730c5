import RouteDoc.Proofs.Service.Timed

/-!
# The timetable of a run

Batch after batch opens a fixed time after the last analysis of the one before has
ended, and the analyses of a batch begin at fixed intervals. Nothing else decides
when they begin but how long they last.

* `Timetable`: when batches open and how long analyses last;
* `Timetable.begins`, `Timetable.finishes`: the times of the analysis in a slot;
* `Orderly`: no batch begins before the one before is over, and no more analyses go
  on at once than a batch has;
* `synthesizeRoutes_timetable`: every run that is not stopped has a timetable.
-/

namespace RouteDoc.Service

/-- How many routes a batch has, as a number of places. -/
def Pace.size (pace : Pace) : Nat := pace.batchSize.toNat

/-- When batches open, and how long the analyses in slots last. -/
structure Timetable where
  opens : Nat → Time
  lasts : Nat → Time

namespace Timetable

variable (t : Timetable) (pace : Pace)

/-- When the analysis in a slot begins: some intervals after its batch opens, one for
each place before it. -/
def begins (slot : Nat) : Time :=
  t.opens (slot / pace.size) + pace.requestDelay * (slot % pace.size : Nat)

/-- When the analysis in a slot ends. -/
def finishes (slot : Nat) : Time := t.begins pace slot + t.lasts slot

/-- The times at which the analyses of a batch end, in a run with `n` slots. -/
def completions (n batch : Nat) : Set Time :=
  {time | ∃ slot < n, slot / pace.size = batch ∧ t.finishes pace slot = time}

end Timetable

/-! ## What is never begun at once -/

/-- Whenever an analysis begins, all of the batches before are over, and never are
there more analyses begun and not ended than a batch has. -/
structure Orderly (size : Nat) (events : List (Time × Event)) : Prop where
  after : ∀ time slot earlier, (time, .started slot) :: earlier <:+ events →
    ∀ before, before / size < slot / size → ∃ time', (time', .ended before) ∈ earlier
  atMost : ∀ earlier, earlier <:+ events →
    (occurrences Event.startedSlot? earlier).length ≤
      (occurrences Event.endedSlot? earlier).length + size

/-- The analyses in the first `n` slots are over, and no other has begun. -/
structure Rested (size n : Nat) (w : World) : Prop where
  orderly : Orderly size w.events
  balanced : w.starts.length ≤ w.finishes.length
  finished : ∀ slot < n, ∃ time, (time, .ended slot) ∈ w.events

section Rested

variable {pace : Pace} {synthesizer : Synthesizer} {offers : Route → List Reply}
  {size k n : Nat} {rs : List Route} {w w' : World} {lasts : Nat → Time}

/-- The analysis in a slot of a batch has the number of the batch. -/
theorem slot_div {i : Nat} (hi : i < size) : (k * size + i) / size = k := by
  rw [Nat.mul_comm, Nat.mul_add_div (Nat.zero_lt_of_lt hi), Nat.div_eq_of_lt hi, Nat.add_zero]

theorem rested_start (script : Script) : Rested size 0 { script } where
  orderly := {
    after := fun _ _ _ h => absurd (List.suffix_nil.mp h) (List.cons_ne_nil _ _)
    atMost := fun _ h => by
      rw [List.suffix_nil.mp h]
      exact Nat.zero_le _ }
  balanced := Nat.le_refl 0
  finished := nofun

/-- A batch that begins when all before it are over leaves all over. -/
theorem Rested.batch (hk : Rested size (k * size) w)
    (h : TimedBatch pace synthesizer offers (k * size) rs w lasts w') (hlength : rs.length ≤ size) :
    Rested size (k * size + rs.length) w' := by
  obtain ⟨new, hnew⟩ := h.leads.events_suffix
  obtain ⟨ended, hended, hperm⟩ := h.finishes
  have hstarts : occurrences Event.startedSlot? new =
      (List.range rs.length).map fun i => (w.now + stagger pace i, k * size + i) := by
    have hall : w.starts ++ occurrences Event.startedSlot? new = w'.starts := by
      rw [World.starts, World.starts, ← occurrences_append, hnew]
    exact List.append_cancel_left (hall.trans h.starts)
  have hfinishes : occurrences Event.endedSlot? new = ended := by
    have hall : w.finishes ++ occurrences Event.endedSlot? new = w'.finishes := by
      rw [World.finishes, World.finishes, ← occurrences_append, hnew]
    exact List.append_cancel_left (hall.trans hended)
  have hcount : ended.length = rs.length := by
    rw [hperm.length_eq, batchFinishes, List.length_map, List.length_range]
  have hsuffix : ∀ {later}, later <:+ w'.events → later <:+ w.events ∨
      ∃ part, later = part ++ w.events ∧ part <:+ new := by
    intro later hlater
    rw [← hnew] at hlater
    have hevents : w.events <:+ new ++ w.events := List.suffix_append new w.events
    rcases List.suffix_or_suffix_of_suffix hlater hevents with hold | ⟨part, rfl⟩
    · exact .inl hold
    · exact .inr ⟨part, rfl, List.suffix_append_self_iff.mp hlater⟩
  refine ⟨⟨fun time slot earlier hearlier before hbefore => ?_, fun earlier hearlier => ?_⟩, ?_,
    fun slot hslot => ?_⟩
  · rcases hsuffix hearlier with hold | ⟨part, hpart, hnewer⟩
    · exact hk.orderly.after time slot earlier hold before hbefore
    · rcases part with - | ⟨_, part⟩
      · exact hk.orderly.after time slot earlier (hpart ▸ List.suffix_refl _) before hbefore
      · -- The analysis is of this batch, and that of the slot before is over.
        obtain ⟨rfl, rfl⟩ := List.cons.inj hpart
        have hmem : (time, slot) ∈ occurrences Event.startedSlot? new :=
          (mem_occurrences _).mpr ⟨_, hnewer.mem List.mem_cons_self, rfl⟩
        rw [hstarts] at hmem
        obtain ⟨i, hi, he⟩ := List.mem_map.mp hmem
        obtain ⟨-, rfl⟩ := Prod.mk.inj he
        have hi := (List.mem_range.mp hi).trans_le hlength
        rw [slot_div hi] at hbefore
        have hlt : before < k * size := (Nat.div_lt_iff_lt_mul (Nat.zero_lt_of_lt hi)).mp hbefore
        exact (hk.finished before hlt).imp fun _ => List.mem_append_right _
  · rcases hsuffix hearlier with hold | ⟨part, rfl, hnewer⟩
    · exact hk.orderly.atMost earlier hold
    · have hpart : (occurrences Event.startedSlot? part).length ≤ rs.length := by
        have hle := (occurrences_sublist Event.startedSlot? hnewer.sublist).length_le
        rwa [hstarts, List.length_map, List.length_range] at hle
      have hbalanced := hk.balanced
      rw [World.starts, World.finishes] at hbalanced
      rw [occurrences_append, occurrences_append, List.length_append, List.length_append]
      omega
  · rw [h.starts, hended, List.length_append, List.length_append, List.length_map,
      List.length_range, hcount]
    exact Nat.add_le_add_right hk.balanced _
  · by_cases hlt : slot < k * size
    · exact (hk.finished slot hlt).imp fun _ => hnew ▸ List.mem_append_right _
    · have hmem : slot ∈ ended.map (·.2) := by
        rw [(hperm.map _).mem_iff, batchFinishes, List.map_map]
        exact List.mem_map.mpr ⟨slot - k * size, List.mem_range.mpr (by omega),
          Nat.add_sub_cancel' (not_lt.mp hlt)⟩
      obtain ⟨⟨time, _⟩, hd, rfl⟩ := List.mem_map.mp hmem
      obtain ⟨e, he, hslot⟩ := (mem_occurrences _).mp (hfinishes ▸ hd)
      exact ⟨time, hnew ▸ List.mem_append_left _ (Event.eq_ended hslot ▸ he)⟩

end Rested

/-! ## From batch to batch -/

/-- The times of `n` slots from `first` on, with the slots. -/
def slotTimes (time : Nat → Time) (first n : Nat) : List (Time × Nat) :=
  (List.range n).map fun i => (time (first + i), first + i)

/-- A timetable from batch number `k` on, for the routes that are left when the world
is `w`, where the run ends in the world `w'`. -/
structure Timetable.Spans (t : Timetable) (pace : Pace) (synthesizer : Synthesizer)
    (offers : Route → List Reply) (k : Nat) (rs : List Route) (w w' : World) : Prop where
  opens : t.opens k = w.now
  lasted : ∀ i r, rs[i]? = some r →
    (synthesizer.task r).Lasts offers (t.lasts (k * pace.size + i))
  next : ∀ j, k ≤ j → (j + 1) * pace.size < k * pace.size + rs.length → ∃ latest,
    IsGreatest (t.completions pace (k * pace.size + rs.length) j) latest ∧
      t.opens (j + 1) = pace.batchDelay + latest
  starts : w'.starts = w.starts ++ slotTimes (t.begins pace) (k * pace.size) rs.length
  finishes : ∃ ended, w'.finishes = w.finishes ++ ended ∧
    ended.Perm (slotTimes (t.finishes pace) (k * pace.size) rs.length)
  idle : rs = [] → w'.now = w.now
  last : rs ≠ [] → IsGreatest (t.completions pace (k * pace.size + rs.length)
    ((k * pace.size + rs.length - 1) / pace.size)) w'.now

theorem exists_place {size k slot : Nat} (h : slot / size = k) : ∃ i, slot = k * size + i :=
  ⟨slot % size, by rw [← h, Nat.mul_comm, Nat.div_add_mod]⟩

theorem slot_mod {size k i : Nat} (hi : i < size) : (k * size + i) % size = i := by
  rw [Nat.mul_comm, Nat.mul_add_mod, Nat.mod_eq_of_lt hi]

section Spans

variable {pace : Pace} {synthesizer : Synthesizer} {offers : Route → List Reply} {k : Nat}
  {rs : List Route} {w w' : World} {lasts : Nat → Time}

/-- Without routes nothing happens. -/
theorem spans_nil : Timetable.Spans ⟨fun _ => w.now, lasts⟩ pace synthesizer offers k [] w w where
  opens := rfl
  lasted _ _ hr := by cases hr
  next j hj hlt := by
    have hle : k * pace.size ≤ (j + 1) * pace.size :=
      Nat.mul_le_mul_right _ (hj.trans (Nat.le_succ j))
    exact absurd hlt (not_lt.mpr hle)
  starts := (List.append_nil _).symm
  finishes := ⟨[], (List.append_nil _).symm, .refl _⟩
  idle _ := rfl
  last hne := absurd rfl hne

/-- The timetable of one batch. -/
theorem spans_single (hdelay : 0 ≤ pace.requestDelay) (hne : rs ≠ [])
    (hlength : rs.length ≤ pace.size)
    (h : TimedBatch pace synthesizer offers (k * pace.size) rs w lasts w') :
    Timetable.Spans ⟨fun _ => w.now, lasts⟩ pace synthesizer offers k rs w w' := by
  have hpos : 0 < rs.length := List.length_pos_iff.mpr hne
  have hbegins : ∀ i < rs.length, Timetable.begins ⟨fun _ => w.now, lasts⟩ pace
      (k * pace.size + i) = w.now + stagger pace i := by
    intro i hi
    rw [Timetable.begins, slot_mod (hi.trans_le hlength), stagger_of_nonneg hdelay]
  have hfinishes : ∀ i < rs.length, Timetable.finishes ⟨fun _ => w.now, lasts⟩ pace
      (k * pace.size + i) = w.now + stagger pace i + lasts (k * pace.size + i) := by
    intro i hi
    rw [Timetable.finishes, hbegins i hi]
  have hcompletions : Timetable.completions ⟨fun _ => w.now, lasts⟩ pace
      (k * pace.size + rs.length) k = {time | ∃ i < rs.length,
        w.now + stagger pace i + lasts (k * pace.size + i) = time} := by
    refine Set.ext fun time => ⟨?_, ?_⟩
    · rintro ⟨slot, hslot, hbatch, htime⟩
      obtain ⟨i, rfl⟩ := exists_place hbatch
      have hi : i < rs.length := Nat.lt_of_add_lt_add_left hslot
      exact ⟨i, hi, (hfinishes i hi).symm.trans htime⟩
    · rintro ⟨i, hi, htime⟩
      exact ⟨k * pace.size + i, Nat.add_lt_add_left hi _, slot_div (hi.trans_le hlength),
        (hfinishes i hi).trans htime⟩
  refine ⟨rfl, h.lasted, fun j hj hlt => ?_, ?_, ?_, fun hnil => absurd hnil hne, fun _ => ?_⟩
  · have hle : (k + 1) * pace.size ≤ (j + 1) * pace.size :=
      Nat.mul_le_mul_right _ (Nat.succ_le_succ hj)
    rw [Nat.succ_mul k] at hle
    omega
  · rw [h.starts]
    refine congrArg _ (List.map_congr_left fun i hi => ?_)
    rw [hbegins i (List.mem_range.mp hi)]
  · obtain ⟨ended, hended, hperm⟩ := h.finishes
    refine ⟨ended, hended, hperm.trans (.of_eq (List.map_congr_left fun i hi => ?_))⟩
    rw [hfinishes i (List.mem_range.mp hi)]
  · have hbatch : (k * pace.size + rs.length - 1) / pace.size = k := by
      rw [Nat.add_sub_assoc hpos, slot_div (by omega)]
    rw [hbatch, hcompletions]
    exact h.latest hne

/-- The times of one timetable up to a batch, and of another after it. -/
def Timetable.join (early : Timetable) (pace : Pace) (k : Nat) (late : Timetable) : Timetable where
  opens batch := if batch ≤ k then early.opens batch else late.opens batch
  lasts slot := if slot / pace.size ≤ k then early.lasts slot else late.lasts slot

section Join

variable {early late : Timetable} {slot : Nat}

theorem opens_join_of_lt {batch : Nat} (h : k < batch) :
    (early.join pace k late).opens batch = late.opens batch := if_neg (not_le.mpr h)

theorem lasts_join_of_le (h : slot / pace.size ≤ k) :
    (early.join pace k late).lasts slot = early.lasts slot := if_pos h

theorem lasts_join_of_lt (h : k < slot / pace.size) :
    (early.join pace k late).lasts slot = late.lasts slot := if_neg (not_le.mpr h)

theorem begins_join_of_le (h : slot / pace.size ≤ k) :
    (early.join pace k late).begins pace slot = early.begins pace slot :=
  congrArg (· + _) (if_pos h)

theorem begins_join_of_lt (h : k < slot / pace.size) :
    (early.join pace k late).begins pace slot = late.begins pace slot :=
  congrArg (· + _) (opens_join_of_lt h)

theorem finishes_join_of_le (h : slot / pace.size ≤ k) :
    (early.join pace k late).finishes pace slot = early.finishes pace slot := by
  rw [Timetable.finishes, begins_join_of_le h, lasts_join_of_le h, Timetable.finishes]

theorem finishes_join_of_lt (h : k < slot / pace.size) :
    (early.join pace k late).finishes pace slot = late.finishes pace slot := by
  rw [Timetable.finishes, begins_join_of_lt h, lasts_join_of_lt h, Timetable.finishes]

theorem completions_congr {t t' : Timetable} {n n' batch : Nat}
    (hn : ∀ slot, slot / pace.size = batch → (slot < n ↔ slot < n'))
    (hfinishes : ∀ slot, slot / pace.size = batch → t.finishes pace slot = t'.finishes pace slot) :
    t.completions pace n batch = t'.completions pace n' batch := by
  refine Set.ext fun time => exists_congr fun slot => ?_
  constructor
  · rintro ⟨hslot, hbatch, htime⟩
    exact ⟨(hn slot hbatch).mp hslot, hbatch, (hfinishes slot hbatch).symm.trans htime⟩
  · rintro ⟨hslot, hbatch, htime⟩
    exact ⟨(hn slot hbatch).mpr hslot, hbatch, (hfinishes slot hbatch).trans htime⟩

theorem slotTimes_append {F G H : Nat → Time} {first m n : Nat}
    (hearly : ∀ i < m, F (first + i) = G (first + i))
    (hlate : ∀ i, F (first + m + i) = H (first + m + i)) :
    slotTimes F first (m + n) = slotTimes G first m ++ slotTimes H (first + m) n := by
  rw [slotTimes, List.range_add, List.map_append, List.map_map]
  refine congrArg₂ (· ++ ·) (List.map_congr_left fun i hi => ?_) (List.map_congr_left fun i _ => ?_)
  · rw [hearly i (List.mem_range.mp hi)]
  · rw [Function.comp, ← Nat.add_assoc, hlate]

/-- A full batch ends with its last analysis, however many routes follow. -/
theorem Timetable.Spans.isGreatest (hsize : 0 < pace.size) {now : List Route} {w w₁ : World}
    (hnow : now.length = pace.size) (h : early.Spans pace synthesizer offers k now w w₁) {n : Nat}
    (hn : (k + 1) * pace.size ≤ n) :
    IsGreatest ((early.join pace k late).completions pace n k) w₁.now := by
  have hlast := h.last (List.ne_nil_of_length_pos (hnow ▸ hsize))
  rw [hnow, Nat.add_sub_assoc hsize, slot_div (Nat.sub_one_lt_of_lt hsize)] at hlast
  rw [completions_congr (fun slot hslot => ?_) fun slot hslot => finishes_join_of_le hslot.le]
  · exact hlast
  · have hlt : slot < (k + 1) * pace.size :=
      (Nat.div_lt_iff_lt_mul hsize).mp (hslot ▸ Nat.lt_succ_self k)
    have hfirst : (k + 1) * pace.size = k * pace.size + pace.size := Nat.succ_mul _ _
    omega

/-- A full batch and the run after a pause have one timetable. -/
theorem Timetable.Spans.append (hsize : 0 < pace.size) (hpause : 0 ≤ pace.batchDelay)
    {now later : List Route} {w w₁ w' : World} (hnow : now.length = pace.size) (hlater : later ≠ [])
    (h : early.Spans pace synthesizer offers k now w w₁)
    (h' : late.Spans pace synthesizer offers (k + 1) later (w₁.sleep pace.batchDelay) w') :
    (early.join pace k late).Spans pace synthesizer offers k (now ++ later) w w' := by
  have hfirst : (k + 1) * pace.size = k * pace.size + pace.size := Nat.succ_mul _ _
  have hcount : k * pace.size + (now ++ later).length = (k + 1) * pace.size + later.length := by
    rw [List.length_append, hnow, hfirst, Nat.add_assoc]
  have hafter : ∀ {slot}, (k + 1) * pace.size ≤ slot → k < slot / pace.size := fun hslot =>
    (Nat.le_div_iff_mul_le hsize).mpr hslot
  have hslots : ∀ {time time' time'' : Nat → Time},
      (∀ slot, slot / pace.size ≤ k → time slot = time' slot) →
      (∀ slot, k < slot / pace.size → time slot = time'' slot) →
      slotTimes time (k * pace.size) (now ++ later).length =
        slotTimes time' (k * pace.size) now.length ++
          slotTimes time'' ((k + 1) * pace.size) later.length := by
    intro time time' time'' hearly hlate
    rw [List.length_append, hnow, hfirst]
    refine slotTimes_append (fun i hi => hearly _ (slot_div hi).le) fun i => hlate _ (hafter ?_)
    rw [hfirst]
    exact Nat.le_add_right _ _
  have hne : now ≠ [] := List.ne_nil_of_length_pos (hnow ▸ hsize)
  refine ⟨(if_pos (le_refl k)).trans h.opens, fun i r hr => ?_, fun j hj hlt => ?_, ?_, ?_,
    fun hnil => absurd hnil (List.append_ne_nil_of_left_ne_nil hne later), fun _ => ?_⟩
  · by_cases hi : i < pace.size
    · rw [List.getElem?_append_left (hnow ▸ hi)] at hr
      rw [lasts_join_of_le (slot_div hi).le]
      exact h.lasted i r hr
    · rw [List.getElem?_append_right (hnow ▸ not_lt.mp hi), hnow] at hr
      have hslot : k * pace.size + i = (k + 1) * pace.size + (i - pace.size) := by omega
      rw [hslot, lasts_join_of_lt (hafter (Nat.le_add_right _ _))]
      exact h'.lasted _ r hr
  · rw [hcount] at hlt ⊢
    rcases Nat.eq_or_lt_of_le hj with rfl | hj
    · -- The pause follows the last end of the full batch.
      refine ⟨w₁.now, h.isGreatest hsize hnow (Nat.le_add_right _ _), ?_⟩
      rw [opens_join_of_lt (Nat.lt_succ_self k), h'.opens, add_comm]
      exact congrArg (w₁.now + ·) (if_neg (not_lt.mpr hpause))
    · obtain ⟨latest, hlatest, hopens⟩ := h'.next j hj hlt
      refine ⟨latest, ?_, (opens_join_of_lt (hj.trans (Nat.lt_succ_self j))).trans hopens⟩
      rw [completions_congr (fun _ _ => Iff.rfl) fun slot hslot =>
        finishes_join_of_lt (hj.trans_eq hslot.symm)]
      exact hlatest
  · refine h'.starts.trans ?_
    rw [hslots (fun _ => begins_join_of_le) (fun _ => begins_join_of_lt), ← List.append_assoc,
      ← h.starts]
    rfl
  · obtain ⟨ended, hended, hperm⟩ := h.finishes
    obtain ⟨ended', hended', hperm'⟩ := h'.finishes
    refine ⟨ended ++ ended', ?_, ?_⟩
    · rw [hended', ← List.append_assoc, ← hended]
      rfl
    · rw [hslots (fun _ => finishes_join_of_le) (fun _ => finishes_join_of_lt)]
      exact hperm.append hperm'
  · rw [hcount]
    have hbatch : k < ((k + 1) * pace.size + later.length - 1) / pace.size := by
      have hlength := List.length_pos_iff.mpr hlater
      exact hafter (by omega)
    rw [completions_congr (fun _ _ => Iff.rfl) fun slot hslot =>
      finishes_join_of_lt (hbatch.trans_eq hslot.symm)]
    exact h'.last hlater

end Join

end Spans

/-! ## All batches -/

theorem take_numberedFrom {α : Type} (first size : Nat) (xs : List α) :
    (numberedFrom first xs).take size = numberedFrom first (xs.take size) := by
  induction xs generalizing first size with
  | nil => simp [numberedFrom]
  | cons x xs ih =>
    cases size with
    | zero => rfl
    | succ size => rw [numberedFrom, List.take_succ_cons, List.take_succ_cons, numberedFrom, ih]

theorem drop_numberedFrom {α : Type} (first size : Nat) (xs : List α) :
    (numberedFrom first xs).drop size = numberedFrom (first + size) (xs.drop size) := by
  induction xs generalizing first size with
  | nil => simp [numberedFrom]
  | cons x xs ih =>
    cases size with
    | zero => rfl
    | succ size =>
      rw [numberedFrom, List.drop_succ_cons, List.drop_succ_cons, ih, Nat.add_right_comm]
      rfl

/-- The first of the batches of numbered elements, and those after it. -/
theorem batchesOf_numberedFrom {α : Type} {size : Nat} (hsize : 0 < size) (first : Nat)
    {xs : List α} (hne : xs ≠ []) :
    batchesOf size (numberedFrom first xs) = numberedFrom first (xs.take size) ::
      batchesOf size (numberedFrom (first + size) (xs.drop size)) := by
  obtain ⟨x, xs, rfl⟩ := List.exists_cons_of_ne_nil hne
  obtain ⟨size, rfl⟩ := Nat.exists_eq_succ_of_ne_zero hsize.ne'
  rw [← drop_numberedFrom, ← take_numberedFrom, numberedFrom, batchesOf]
  rfl

theorem batchesOf_eq_nil {α : Type} {size first : Nat} {xs : List α} :
    batchesOf size (numberedFrom first xs) = [] ↔ xs = [] := by
  cases xs with
  | nil => simp [numberedFrom, batchesOf]
  | cons x xs => simp [numberedFrom, batchesOf]

section Run

variable {pace : Pace} {synthesizer : Synthesizer} {offers : Route → List Reply}

/-- A batch is opened at once. -/
theorem TimedBatch.of_opened {first : Nat} {rs : List Route} {w w' : World} {lasts : Nat → Time}
    (h : TimedBatch pace synthesizer offers first rs (w.record .opened) lasts w') :
    TimedBatch pace synthesizer offers first rs w lasts w' := by
  have hstarts : (w.record .opened).starts = w.starts :=
    (w.starts_record .opened).trans (List.append_nil _)
  have hfinishes : (w.record .opened).finishes = w.finishes :=
    (w.finishes_record .opened).trans (List.append_nil _)
  exact ⟨(w.leads_record .opened).trans h.leads, h.offered, h.lasted, hstarts ▸ h.starts,
    hfinishes ▸ h.finishes, h.latest⟩

/-- The batches of a run that is not stopped have a timetable, and each begins when
those before are over. -/
theorem exists_spans (hsize : 0 < pace.size) (hdelay : 0 ≤ pace.requestDelay)
    (hpause : 0 ≤ pace.batchDelay) (synthesizer : Synthesizer) (k : Nat) (rs : List Route)
    {w : World} (hoffers : ∀ r, w.script.offers r ⊆ offers r)
    (hrested : Rested pace.size (k * pace.size) w) :
    let w' := (runBatches pace synthesizer (fun _ => false)
      (batchesOf pace.size (numberedFrom (k * pace.size) rs)) w).2
    Rested pace.size (k * pace.size + rs.length) w' ∧
      ∃ t : Timetable, t.Spans pace synthesizer offers k rs w w' := by
  induction hn : rs.length using Nat.strong_induction_on generalizing k rs w with
  | h n ih =>
    by_cases hne : rs = []
    · subst hne hn
      rw [batchesOf_eq_nil.mpr rfl]
      exact ⟨hrested, ⟨fun _ => w.now, fun _ => 0⟩, spans_nil⟩
    rw [batchesOf_numberedFrom hsize _ hne, runBatches, if_neg Bool.false_ne_true]
    obtain ⟨lasts, hopened⟩ := exists_timed_batch pace synthesizer (k * pace.size)
      (rs.take pace.size) (w := w.record .opened) hoffers
    have hbatch := hopened.of_opened
    dsimp only
    generalize ((batchSchedule pace synthesizer (numberedFrom (k * pace.size)
      (rs.take pace.size)) (w.record .opened)).run fun _ => false).world = w₁ at hbatch ⊢
    have hlength : (rs.take pace.size).length ≤ pace.size := List.length_take_le _ _
    have htake : rs.take pace.size ≠ [] := by
      rw [Ne, List.take_eq_nil_iff, not_or]
      exact ⟨hsize.ne', hne⟩
    have hover := hrested.batch hbatch hlength
    have hspans := spans_single hdelay htake hlength hbatch
    by_cases hlater : rs.drop pace.size = []
    · -- No pause follows the last batch.
      rw [hlater, batchesOf_eq_nil.mpr rfl]
      rw [List.take_of_length_le (List.drop_eq_nil_iff.mp hlater)] at hover hspans
      exact ⟨hn ▸ hover, _, hspans⟩
    · have hlt : pace.size < rs.length := not_le.mp fun hle => hlater (List.drop_of_length_le hle)
      have hfull : (rs.take pace.size).length = pace.size := List.length_take_of_le hlt.le
      have hleft : (rs.drop pace.size).length + pace.size = n := by
        rw [List.length_drop, ← hn, Nat.sub_add_cancel hlt.le]
      have hpaused : pauseBefore pace (batchesOf pace.size (numberedFrom
          (k * pace.size + pace.size) (rs.drop pace.size))) w₁ =
            w₁.sleep pace.batchDelay := by
        rw [pauseBefore, if_neg]
        exact fun hnil => hlater (batchesOf_eq_nil.mp (List.isEmpty_iff.mp hnil))
      rw [hpaused, ← Nat.succ_mul]
      rw [hfull, ← Nat.succ_mul] at hover
      obtain ⟨hdone, t, ht⟩ := ih _ (by omega) (k + 1) (rs.drop pace.size)
        (w := w₁.sleep pace.batchDelay) hbatch.offered
        ⟨hover.orderly, hover.balanced, hover.finished⟩ rfl
      have happend := hspans.append hsize hpause hfull hlater ht
      rw [List.take_append_drop] at happend
      refine ⟨?_, _, happend⟩
      rwa [← hleft, Nat.add_comm (rs.drop _).length, ← Nat.add_assoc, ← Nat.succ_mul]

/-- A run that is not stopped has a timetable. The first batch opens at once, and each
other some time after the latest end in the one before. The analysis in a slot begins
once the intervals for those before it in its batch have passed, and ends when it has
lasted as long as it may; each begins and ends once, and they begin in the order of
their routes. None begins before all of the batches before are over, and never do more
go on at once than a batch has. The run is over with the last end: no pause follows. -/
theorem synthesizeRoutes_timetable (pace : Pace) (hsize : 1 ≤ pace.batchSize)
    (hdelay : 0 ≤ pace.requestDelay) (hpause : 0 ≤ pace.batchDelay)
    (synthesizer : Synthesizer) (routes : List Route) (script : Script) :
    ∃ result w', synthesizeRoutes pace synthesizer (fun _ => false) routes { script } =
        .ok (result, w') ∧
      ∃ t : Timetable,
        (∀ slot r, routes[slot]? = some r →
          (synthesizer.task r).Lasts script.offers (t.lasts slot)) ∧
        t.opens 0 = 0 ∧
        (∀ k, (k + 1) * pace.size < routes.length → ∃ latest,
          IsGreatest (t.completions pace routes.length k) latest ∧
            t.opens (k + 1) = pace.batchDelay + latest) ∧
        w'.starts = (List.range routes.length).map (fun slot => (t.begins pace slot, slot)) ∧
        w'.finishes.Perm
          ((List.range routes.length).map fun slot => (t.finishes pace slot, slot)) ∧
        Orderly pace.size w'.events ∧
        (routes = [] → w'.now = 0) ∧
        (routes ≠ [] → IsGreatest
          (t.completions pace routes.length ((routes.length - 1) / pace.size)) w'.now) := by
  have hpos : 0 < pace.size := by
    rw [Pace.size]
    omega
  have hstart : Rested pace.size (0 * pace.size) { script } :=
    (Nat.zero_mul pace.size).symm ▸ rested_start script
  obtain ⟨hdone, t, hopens, hlasted, hnext, hstarts, ⟨ended, hended, hperm⟩, hidle, hlast⟩ :=
    exists_spans hpos hdelay hpause synthesizer 0 routes (fun _ => List.Subset.refl _) hstart
  simp only [Nat.zero_mul, Nat.zero_add] at hdone hlasted hnext hidle hlast
  simp only [Nat.zero_mul, Nat.zero_add, slotTimes] at hstarts hended hperm
  exact ⟨_, _, synthesizeRoutes_eq (batches_eq hsize _) _, t, hlasted, hopens,
    fun k => hnext k (Nat.zero_le k), hstarts, (List.Perm.of_eq hended).trans hperm, hdone.orderly,
    hidle, hlast⟩

/-- Analyses that take the times given for routes. -/
def sleepers (seconds : Route → Time) : Synthesizer where
  steps _ := 1
  task r := .sleep (seconds r) (.done (n := 0) (.ok { analysis := templateAnalysis r }))
    Nat.zero_lt_one

theorem lasts_sleepers {seconds : Route → Time} {offers : Route → List Reply} {r : Route}
    {time : Time} : ((sleepers seconds).task r).Lasts offers time ↔ time = wait (seconds r) := by
  constructor
  · rintro ⟨rest, rfl, htime⟩
    exact htime.trans (add_zero _)
  · rintro rfl
    exact ⟨0, rfl, (add_zero _).symm⟩

/-- Two analyses at a time, which begin a second apart. -/
def inPairs : Pace := { batchSize := 2, requestDelay := 1 }

/-- Three routes. -/
def threeRoutes : List Route :=
  [{ method := "GET", path := "/a" }, { method := "GET", path := "/b" },
    { method := "GET", path := "/c" }]

/-- The times that the analyses of three routes take. -/
def threeTimes (r : Route) : Time :=
  if r.path = "/a" then 5 else if r.path = "/b" then 2 else 3

/-- The second of three analyses begins after the first and ends before it; the third
is in a batch of its own. -/
theorem synthesizeRoutes_timetable_three :
    1 ≤ inPairs.batchSize ∧ 0 ≤ inPairs.requestDelay ∧ 0 ≤ inPairs.batchDelay ∧
    ∃ result w', synthesizeRoutes inPairs (sleepers threeTimes) (fun _ => false) threeRoutes
        { script := [] } = .ok (result, w') ∧
      w'.starts = [(0, 0), (1, 1), (6, 2)] ∧ w'.finishes.Perm [(5, 0), (3, 1), (9, 2)] ∧
      w'.now = 9 := by
  have hsize : 1 ≤ inPairs.batchSize := by decide
  have hinterval : inPairs.requestDelay = 1 := by decide +kernel
  have hpause : inPairs.batchDelay = 1 := by decide +kernel
  refine ⟨hsize, hinterval ▸ zero_le_one, hpause ▸ zero_le_one, ?_⟩
  obtain ⟨result, w', hrun, t, hlasts, hopens, hnext, hstarts, hfinishes, -, -, hlast⟩ :=
    synthesizeRoutes_timetable inPairs hsize (hinterval ▸ zero_le_one) (hpause ▸ zero_le_one)
      (sleepers threeTimes) threeRoutes []
  have hfirst : t.lasts 0 = 5 := lasts_sleepers.mp (hlasts 0 _ rfl)
  have hsecond : t.lasts 1 = 2 := lasts_sleepers.mp (hlasts 1 _ rfl)
  have hthird : t.lasts 2 = 3 := lasts_sleepers.mp (hlasts 2 _ rfl)
  have hbegins : ∀ slot, t.begins inPairs slot = t.opens (slot / 2) + (slot % 2 : Nat) := by
    intro slot
    rw [Timetable.begins, hinterval, one_mul]
    rfl
  have hbegins₀ : t.begins inPairs 0 = 0 := by simp [hbegins, hopens]
  have hbegins₁ : t.begins inPairs 1 = 1 := by simp [hbegins, hopens]
  have hfinishes₀ : t.finishes inPairs 0 = 5 := by
    rw [Timetable.finishes, hbegins₀, hfirst]
    decide +kernel
  have hfinishes₁ : t.finishes inPairs 1 = 3 := by
    rw [Timetable.finishes, hbegins₁, hsecond]
    decide +kernel
  have hgreatest : IsGreatest (t.completions inPairs 3 0) 5 := by
    refine ⟨⟨0, by decide, rfl, hfinishes₀⟩, ?_⟩
    rintro _ ⟨slot, -, hbatch, rfl⟩
    have hbatch : slot / 2 = 0 := hbatch
    obtain rfl | rfl : slot = 0 ∨ slot = 1 := by omega
    · exact hfinishes₀.le
    · rw [hfinishes₁]
      decide +kernel
  obtain ⟨latest, hlatest, hsecondOpens⟩ := hnext 0 (by decide)
  obtain rfl := hlatest.unique hgreatest
  have hbegins₂ : t.begins inPairs 2 = 6 := by
    refine (hbegins 2).trans ?_
    change t.opens (0 + 1) + 0 = 6
    rw [hsecondOpens, hpause]
    decide +kernel
  have hfinishes₂ : t.finishes inPairs 2 = 9 := by
    rw [Timetable.finishes, hbegins₂, hthird]
    decide +kernel
  refine ⟨result, w', hrun, hstarts.trans ?_, hfinishes.trans (.of_eq ?_), ?_⟩
  · change [(t.begins inPairs 0, 0), (t.begins inPairs 1, 1), (t.begins inPairs 2, 2)] = _
    rw [hbegins₀, hbegins₁, hbegins₂]
  · change [(t.finishes inPairs 0, 0), (t.finishes inPairs 1, 1), (t.finishes inPairs 2, 2)] = _
    rw [hfinishes₀, hfinishes₁, hfinishes₂]
  · obtain ⟨slot, hslot, hbatch, htime⟩ := (hlast (List.cons_ne_nil _ _)).1
    have hslot : slot < 3 := hslot
    have hbatch : slot / 2 = 1 := hbatch
    obtain rfl : slot = 2 := by omega
    exact htime.symm.trans hfinishes₂

end Run

end RouteDoc.Service
