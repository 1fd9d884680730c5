import Mathlib.Order.Bounds.Basic
import RouteDoc.Proofs.Service.Begun

/-!
# How long analyses last

The analyses of a batch begin at intervals, go on side by side, and each ends when
its own waits are over, whatever the others do.

* `Task.Lasts`: how long a task may last; `Task.lasts_of_turn`: a turn adds no time;
* `World.starts`, `World.finishes`: when analyses began and ended;
* `Ongoing`, `exists_ongoing_step`: the times of a batch that goes on, and that a
  turn keeps them;
* `TimedBatch`, `exists_timed_batch`: the times of a whole batch.
-/

namespace RouteDoc.Service

/-! ## How long a task lasts -/

/-- The time that a task may last in all when the service gives replies on offer. -/
def Task.Lasts {α : Type} (offers : Route → List Reply) : {n : Nat} → Task α n → Time → Prop
  | _, .done _, time => time = 0
  | _, .sleep seconds next _, time => ∃ rest, next.Lasts offers rest ∧ time = wait seconds + rest
  | _, .ask r next _, time => ∃ reply ∈ offers r, (next reply).Lasts offers time

/-- The same from where a task stands after its turn. -/
def Rest.Lasts {α : Type} (offers : Route → List Reply) {n : Nat} : Rest α n → Time → Prop
  | .ended _, time => time = 0
  | .asleep seconds next _, time => ∃ rest, next.Lasts offers rest ∧ time = wait seconds + rest

namespace Task

variable {α β : Type} {offers : Route → List Reply}

theorem lasts_map {f : α → β} {n : Nat} {t : Task α n} {time : Time} :
    (t.map f).Lasts offers time ↔ t.Lasts offers time := by
  induction t generalizing time with
  | done result => rfl
  | sleep seconds next _ ih => exact exists_congr fun rest => and_congr_left' ih
  | ask r next _ ih => exact exists_congr fun reply => and_congr_right' (ih reply)

/-- A task lasts as long as what is left of it after a turn. -/
theorem lasts_of_turn {n : Nat} {t : Task α n} {w : World}
    (hoffers : ∀ r, w.script.offers r ⊆ offers r) {time : Time}
    (h : (t.turn w).1.Lasts offers time) : t.Lasts offers time := by
  induction t generalizing w with
  | done result => exact h
  | sleep seconds next _ => exact h
  | ask r next _ ih =>
    refine ⟨(w.ask r).1, hoffers r (Script.next_mem_offers w.script r),
      ih _ ?_ (w := (w.ask r).2) ?_⟩
    · exact fun q => List.Subset.trans (Script.offers_next w.script r q) (hoffers q)
    · rw [turn_ask] at h
      cases hrest : ((next (w.ask r).1).turn (w.ask r).2).1 <;> rw [hrest] at h <;> exact h

end Task

/-! ## When analyses began and ended -/

/-- The slot whose analysis an event ends. -/
def Event.endedSlot? : Event → Option Nat
  | .ended slot => some slot
  | _ => none

theorem Event.eq_ended {e : Event} {slot : Nat} (h : e.endedSlot? = some slot) :
    e = .ended slot := by
  cases e with
  | ended slot' => exact congrArg Event.ended (Option.some.inj h)
  | _ => cases h

/-- The slots that events of a kind are about and the times of these events, in
order. -/
def occurrences (slot? : Event → Option Nat) (events : List (Time × Event)) : List (Time × Nat) :=
  events.reverse.filterMap fun (time, e) => (slot? e).map (time, ·)

/-- When analyses began, and in which slots, in order. -/
def World.starts (w : World) : List (Time × Nat) := occurrences Event.startedSlot? w.events

/-- When analyses ended, and in which slots, in order. -/
def World.finishes (w : World) : List (Time × Nat) := occurrences Event.endedSlot? w.events

section Occurrences

variable (slot? : Event → Option Nat)

theorem occurrences_append (later earlier : List (Time × Event)) :
    occurrences slot? (later ++ earlier) =
      occurrences slot? earlier ++ occurrences slot? later := by
  rw [occurrences, List.reverse_append, List.filterMap_append]
  rfl

theorem mem_occurrences {events : List (Time × Event)} {time : Time} {slot : Nat} :
    (time, slot) ∈ occurrences slot? events ↔ ∃ e, (time, e) ∈ events ∧ slot? e = some slot := by
  simp [occurrences, and_comm, and_left_comm]

theorem occurrences_sublist {later events : List (Time × Event)} (h : later.Sublist events) :
    (occurrences slot? later).Sublist (occurrences slot? events) :=
  h.reverse.filterMap _

theorem occurrences_turn (hslot : ∀ r, slot? (.asked r) = none) {α : Type} {n : Nat}
    (t : Task α n) (w : World) :
    occurrences slot? (t.turn w).2.events = occurrences slot? w.events := by
  obtain ⟨asked, -, he⟩ := Task.events_turn (Task.asks_true w.now t)
  have hnone : occurrences slot? (asked.map fun r => (w.now, Event.asked r)) = [] := by
    simp [occurrences, hslot]
  rw [he, occurrences_append, hnone, List.append_nil]

end Occurrences

theorem World.starts_turn {α : Type} {n : Nat} (t : Task α n) (w : World) :
    (t.turn w).2.starts = w.starts := occurrences_turn _ (fun _ => rfl) t w

theorem World.finishes_turn {α : Type} {n : Nat} (t : Task α n) (w : World) :
    (t.turn w).2.finishes = w.finishes := occurrences_turn _ (fun _ => rfl) t w

theorem World.starts_record (w : World) (e : Event) :
    (w.record e).starts = w.starts ++ (e.startedSlot?.map (w.now, ·)).toList := by
  refine (occurrences_append _ [(w.now, e)] w.events).trans (congrArg _ ?_)
  cases e <;> rfl

theorem World.finishes_record (w : World) (e : Event) :
    (w.record e).finishes = w.finishes ++ (e.endedSlot?.map (w.now, ·)).toList := by
  refine (occurrences_append _ [(w.now, e)] w.events).trans (congrArg _ ?_)
  cases e <;> rfl

/-! ## A batch that goes on -/

/-- When the analysis with a place in a batch that opens at `start` begins. -/
def beginning (pace : Pace) (start : Time) (e : Nat × Nat × Route) : Time :=
  start + stagger pace e.1

/-- The times of a batch that goes on: the analyses of `begun` began at their times,
those of `rest` are to begin at theirs, and `ended` says when those that are over
ended. Each begun is in hand, asleep or over, and has so far lasted as long as it
may. -/
structure Ongoing (pace : Pace) (synthesizer : Synthesizer) (offers : Route → List Reply)
    (start : Time) (starts finishes : List (Time × Nat)) (inHand : List Nat)
    (begun rest : List (Nat × Nat × Route)) (ended : List (Time × Nat)) (s : Schedule Outcome) :
    Prop where
  offered : ∀ r, s.world.script.offers r ⊆ offers r
  waiting : s.waiting = rest.map (waitingFor pace synthesizer start)
  starts : s.world.starts = starts ++ begun.map fun e => (beginning pace start e, e.2.1)
  finishes : s.world.finishes = finishes ++ ended
  placed : (inHand ++ (s.queue.map (·.slot) ++ ended.map (·.2))).Perm (begun.map (·.2.1))
  asleep : ∀ p ∈ s.queue, ∃ e ∈ begun, e.2.1 = p.slot ∧ ∀ time, p.task.Lasts offers time →
    (synthesizer.task e.2.2).Lasts offers (p.due + time - beginning pace start e)
  lasted : ∀ d ∈ ended, ∃ e ∈ begun, e.2.1 = d.2 ∧
    (synthesizer.task e.2.2).Lasts offers (d.1 - beginning pace start e)
  past : ∀ d ∈ ended, d.1 ≤ s.world.now
  latest : inHand = [] → begun ≠ [] → s.queue = [] → ∃ d ∈ ended, d.1 = s.world.now

section Ongoing

variable {pace : Pace} {synthesizer : Synthesizer} {offers : Route → List Reply} {start : Time}
  {starts finishes : List (Time × Nat)} {begun rest : List (Nat × Nat × Route)}
  {ended : List (Time × Nat)} {s t : Schedule Outcome}

theorem slots_enqueue {α : Type} (p : Pending α) (queue : List (Pending α)) :
    ((enqueue p queue).map (·.slot)).Perm (p.slot :: queue.map (·.slot)) := by
  induction queue with
  | nil => exact .refl _
  | cons q queue ih =>
    rw [enqueue]
    split
    · exact .refl _
    · exact (ih.cons _).trans (.swap _ _ _)

/-- The analysis in hand is asleep or over after its turn. -/
theorem Ongoing.settle {w : World} {e : Nat × Nat × Route}
    (h : Ongoing pace synthesizer offers start starts finishes [e.2.1] begun rest ended
      { s with world := w }) (he : e ∈ begun) {n : Nat} {task : Task Outcome n}
    (htask : ∀ time, task.Lasts offers time →
      (synthesizer.task e.2.2).Lasts offers (w.now + time - beginning pace start e)) :
    ∃ ended', Ongoing pace synthesizer offers start starts finishes [] begun rest ended'
      (s.settle w.now e.2.1 (task.turn w)) := by
  have hlasts : ∀ time, (task.turn w).1.Lasts offers time →
      (synthesizer.task e.2.2).Lasts offers (w.now + time - beginning pace start e) :=
    fun time htime => htask time (Task.lasts_of_turn h.offered htime)
  have hoffered : ∀ r, (task.turn w).2.script.offers r ⊆ offers r := fun r =>
    List.Subset.trans (Task.offers_turn task w r) (h.offered r)
  have hstarts := (World.starts_turn task w).trans h.starts
  have hfinishes := (World.finishes_turn task w).trans h.finishes
  have hnow := Task.now_turn task w
  generalize task.turn w = turn at *
  obtain ⟨result | ⟨seconds, next, hm⟩, w'⟩ := turn
  · -- The analysis is over at the time of its turn.
    refine ⟨ended ++ [(w.now, e.2.1)], hoffered, h.waiting, ?_, ?_, ?_, h.asleep, ?_, ?_, ?_⟩
    · exact (w'.starts_record (.ended e.2.1)).trans ((List.append_nil _).trans hstarts)
    · refine (w'.finishes_record (.ended e.2.1)).trans ?_
      rw [← List.append_assoc, ← hfinishes, ← hnow]
      rfl
    · refine List.Perm.trans ?_ h.placed
      rw [List.map_append]
      change (s.queue.map (·.slot) ++ (ended.map (·.2) ++ [e.2.1])).Perm
        (e.2.1 :: (s.queue.map (·.slot) ++ ended.map (·.2)))
      rw [← List.append_assoc]
      exact List.perm_append_singleton _ _
    · intro d hd
      rcases List.mem_append.mp hd with hd | hd
      · exact h.lasted d hd
      · obtain rfl := List.mem_singleton.mp hd
        exact ⟨e, he, rfl, add_zero w.now ▸ hlasts 0 rfl⟩
    · intro d hd
      rcases List.mem_append.mp hd with hd | hd
      · exact (h.past d hd).trans hnow.ge
      · obtain rfl := List.mem_singleton.mp hd
        exact hnow.ge
    · exact fun _ _ _ => ⟨_, List.mem_append_right _ List.mem_cons_self, hnow.symm⟩
  · -- The analysis sleeps, and lasts that much longer.
    refine ⟨ended, hoffered, h.waiting, hstarts, hfinishes, ?_, fun p hp => ?_, h.lasted,
      fun d hd => (h.past d hd).trans hnow.ge, fun _ _ hqueue => ?_⟩
    · refine List.Perm.trans ?_ h.placed
      exact (slots_enqueue _ _).append_right _
    · rcases mem_enqueue.mp hp with rfl | hp
      · refine ⟨e, he, rfl, fun time htime => ?_⟩
        rw [add_assoc]
        exact hlasts _ ⟨time, htime, rfl⟩
      · exact h.asleep p hp
    · have hmem : ⟨w.now + wait seconds, e.2.1, next⟩ ∈
          (s.settle w.now e.2.1 ((.asleep seconds next hm : Rest Outcome n), w')).queue :=
        mem_enqueue.mpr (.inl rfl)
      exact absurd (hqueue ▸ hmem) List.not_mem_nil

/-- An analysis of a batch begins when it is due, whatever the others do. -/
theorem Ongoing.begin {e : Nat × Nat × Route}
    (h : Ongoing pace synthesizer offers start starts finishes [] begun (e :: rest) ended s)
    (hle : s.world.now ≤ beginning pace start e) :
    ∃ ended', Ongoing pace synthesizer offers start starts finishes [] (begun ++ [e]) rest ended'
      ({ s with waiting := rest.map (waitingFor pace synthesizer start) }.start (fun _ => false)
        (waitingFor pace synthesizer start e)) := by
  have hbegun : ∀ {P : Nat × Nat × Route → Prop}, (∃ a ∈ begun, P a) → ∃ a ∈ begun ++ [e], P a :=
    fun ⟨a, ha, hP⟩ => ⟨a, List.mem_append_left _ ha, hP⟩
  have hin : Ongoing pace synthesizer offers start starts finishes [e.2.1] (begun ++ [e]) rest ended
      { s with
        waiting := rest.map (waitingFor pace synthesizer start)
        world := (s.world.setNow (beginning pace start e)).record (.started e.2.1) } := by
    refine ⟨h.offered, rfl, ?_, ?_, ?_, fun p hp => hbegun (h.asleep p hp),
      fun d hd => hbegun (h.lasted d hd), fun d hd => (h.past d hd).trans hle, nofun⟩
    · refine (World.starts_record _ (.started e.2.1)).trans ?_
      rw [List.map_append, ← List.append_assoc, ← h.starts]
      rfl
    · exact (World.finishes_record _ (.started e.2.1)).trans
        ((List.append_nil _).trans h.finishes)
    · rw [List.map_append]
      exact (h.placed.cons e.2.1).trans (List.perm_append_singleton _ _).symm
  rw [Schedule.start_of_not_stopped rfl]
  refine hin.settle (s := { s with waiting := rest.map (waitingFor pace synthesizer start) })
    (List.mem_append_right _ List.mem_cons_self) fun time htime => ?_
  have hsame : beginning pace start e + time - beginning pace start e = time :=
    add_sub_cancel_left _ _
  exact hsame.symm ▸ Task.lasts_map.mp htime

/-- An analysis that was begun goes on. -/
theorem Ongoing.goOn {p : Pending Outcome} {queue : List (Pending Outcome)}
    (h : Ongoing pace synthesizer offers start starts finishes [] begun rest ended s)
    (hp : s.queue = p :: queue) (hle : s.world.now ≤ p.due) :
    ∃ ended', Ongoing pace synthesizer offers start starts finishes [] begun rest ended'
      ({ s with queue }.resume p) := by
  obtain ⟨e, he, hslot, htask⟩ := h.asleep p (hp ▸ List.mem_cons_self)
  have hin : Ongoing pace synthesizer offers start starts finishes [e.2.1] begun rest ended
      { s with queue, world := s.world.setNow p.due } := by
    refine ⟨h.offered, h.waiting, h.starts, h.finishes, ?_,
      fun q hq => h.asleep q (hp ▸ List.mem_cons_of_mem p hq), h.lasted,
      fun d hd => (h.past d hd).trans hle, nofun⟩
    have hplaced := h.placed
    rw [hp] at hplaced
    exact hslot ▸ hplaced
  rw [Schedule.resume, ← hslot]
  exact hin.settle (s := { s with queue }) he htask

/-- A turn begins the next analysis of a batch or lets one go on. -/
theorem exists_ongoing_step (htimely : s.Timely)
    (h : Ongoing pace synthesizer offers start starts finishes [] begun rest ended s)
    (hstep : s.step (fun _ => false) = some t) :
    ∃ begun' rest' ended', begun' ++ rest' = begun ++ rest ∧
      Ongoing pace synthesizer offers start starts finishes [] begun' rest' ended' t := by
  rcases Schedule.step_cases hstep with ⟨v, waiting, hv, -, rfl⟩ | ⟨p, queue, hp, -, rfl⟩
  · obtain ⟨e, rest, rfl, rfl, rfl⟩ := List.map_eq_cons_iff.mp (h.waiting.symm.trans hv)
    obtain ⟨ended', h'⟩ := h.begin (htimely.le_waiting _ (hv ▸ List.mem_cons_self))
    exact ⟨begun ++ [e], rest, ended', by rw [List.append_assoc]; rfl, h'⟩
  · obtain ⟨ended', h'⟩ := h.goOn hp (htimely.le_queue p (hp ▸ List.mem_cons_self))
    exact ⟨begun, rest, ended', rfl, h'⟩

end Ongoing

/-! ## Whole batches -/

/-- The elements of a list with their numbers, and their places beside these. -/
theorem map_numberedFrom_numberedFrom {α β : Type} (g : Nat → Nat → β) (m n : Nat) (xs : List α) :
    (numberedFrom m (numberedFrom n xs)).map (fun e => g e.1 e.2.1) =
      (List.range xs.length).map fun i => g (m + i) (n + i) := by
  induction xs generalizing m n with
  | nil => rfl
  | cons x xs ih =>
    rw [numberedFrom, numberedFrom, List.map_cons, ih, List.length_cons, List.range_succ_eq_map,
      List.map_cons, List.map_map]
    refine congrArg₂ List.cons rfl (List.map_congr_left fun i _ => ?_)
    rw [Function.comp, Nat.succ_eq_add_one, Nat.add_right_comm m, Nat.add_right_comm n]
    rfl

theorem getElem?_numberedFrom {α : Type} (n : Nat) (xs : List α) (i : Nat) :
    (numberedFrom n xs)[i]? = xs[i]?.map (n + i, ·) := by
  induction xs generalizing n i with
  | nil => rfl
  | cons x xs ih =>
    cases i with
    | zero => rfl
    | succ i =>
      rw [numberedFrom, List.getElem?_cons_succ, List.getElem?_cons_succ, ih, Nat.add_right_comm]
      rfl

/-- The element with a number stands at its place. -/
theorem slot_of_mem_numberedFrom {first : Nat} {rs : List Route} {e : Nat × Nat × Route}
    (h : e ∈ numberedFrom 0 (numberedFrom first rs)) :
    e.2.1 = first + e.1 ∧ rs[e.1]? = some e.2.2 := by
  have hget : (numberedFrom first rs)[e.1]? = some e.2 := (getElem?_of_mem_numberedFrom h).2
  rw [getElem?_numberedFrom] at hget
  obtain ⟨r, hr, he⟩ := Option.map_eq_some_iff.mp hget
  rw [← he]
  exact ⟨rfl, hr⟩

/-- When the analyses of a batch ended, in the slots from `first` on, if it opened at
`start` and they lasted so long. -/
def batchFinishes (pace : Pace) (start : Time) (first : Nat) (lasts : Nat → Time) (n : Nat) :
    List (Time × Nat) :=
  (List.range n).map fun i => (start + stagger pace i + lasts (first + i), first + i)

/-- The times of a whole batch with the slots from `first` on: its analyses began at
intervals and lasted as long as they may, and the last end is the time of the world. -/
structure TimedBatch (pace : Pace) (synthesizer : Synthesizer) (offers : Route → List Reply)
    (first : Nat) (rs : List Route) (w : World) (lasts : Nat → Time) (w' : World) : Prop where
  leads : w.Leads w'
  offered : ∀ r, w'.script.offers r ⊆ offers r
  lasted : ∀ i r, rs[i]? = some r → (synthesizer.task r).Lasts offers (lasts (first + i))
  starts : w'.starts =
    w.starts ++ (List.range rs.length).map fun i => (w.now + stagger pace i, first + i)
  finishes : ∃ ended, w'.finishes = w.finishes ++ ended ∧
    ended.Perm (batchFinishes pace w.now first lasts rs.length)
  latest : rs ≠ [] →
    IsGreatest {time | ∃ i < rs.length, w.now + stagger pace i + lasts (first + i) = time} w'.now

section Batch

variable {pace : Pace} {synthesizer : Synthesizer} {offers : Route → List Reply}

theorem ongoing_batchSchedule (batch : List (Nat × Route)) {w : World}
    (hoffers : ∀ r, w.script.offers r ⊆ offers r) :
    Ongoing pace synthesizer offers w.now w.starts w.finishes [] [] (numberedFrom 0 batch) []
      (batchSchedule pace synthesizer batch w) :=
  ⟨hoffers, rfl, (List.append_nil _).symm, (List.append_nil _).symm, .refl _, nofun, nofun, nofun,
    fun _ hne => absurd rfl hne⟩

/-- When a batch is over, all its analyses have begun and ended. -/
theorem exists_ended_batch (pace : Pace) (synthesizer : Synthesizer) (batch : List (Nat × Route))
    {w : World} (hoffers : ∀ r, w.script.offers r ⊆ offers r) :
    let s := (batchSchedule pace synthesizer batch w).run fun _ => false
    w.Leads s.world ∧ ∃ ended, Ongoing pace synthesizer offers w.now w.starts w.finishes []
      (numberedFrom 0 batch) [] ended s ∧
      (ended.map (·.2)).Perm ((numberedFrom 0 batch).map (·.2.1)) := by
  intro s
  obtain ⟨hleads, begun, rest, ended, hbatch, h⟩ :=
    Schedule.timely_run_induction
      (P := fun s => ∃ begun rest ended, begun ++ rest = numberedFrom 0 batch ∧
        Ongoing pace synthesizer offers w.now w.starts w.finishes [] begun rest ended s)
      (fun htimely ⟨begun, rest, ended, hbatch, h⟩ hstep => by
        obtain ⟨begun', rest', ended', hsplit, h'⟩ := exists_ongoing_step htimely h hstep
        exact ⟨begun', rest', ended', hsplit.trans hbatch, h'⟩)
      (timely_batchSchedule pace synthesizer batch w)
      ⟨[], _, [], rfl, ongoing_batchSchedule batch hoffers⟩
  obtain ⟨hwaiting, hqueue⟩ := Schedule.run_done (fun _ => false)
    (batchSchedule pace synthesizer batch w)
  obtain rfl : rest = [] := List.map_eq_nil_iff.mp (h.waiting.symm.trans hwaiting)
  rw [List.append_nil] at hbatch
  subst hbatch
  have hplaced := h.placed
  rw [hqueue] at hplaced
  exact ⟨hleads, ended, h, hplaced⟩

/-- The analyses of a batch have their times. -/
theorem exists_timed_batch (pace : Pace) (synthesizer : Synthesizer) (first : Nat)
    (rs : List Route) {w : World} (hoffers : ∀ r, w.script.offers r ⊆ offers r) :
    ∃ lasts, TimedBatch pace synthesizer offers first rs w lasts
      ((batchSchedule pace synthesizer (numberedFrom first rs) w).run fun _ => false).world := by
  obtain ⟨hleads, ended, h, hplaced⟩ :=
    exists_ended_batch pace synthesizer (numberedFrom first rs) hoffers
  have hslots : (numberedFrom 0 (numberedFrom first rs)).map (·.2.1) =
      (List.range rs.length).map (first + ·) :=
    map_numberedFrom_numberedFrom (fun _ slot => slot) 0 first rs
  rw [hslots] at hplaced
  have hnodup : (ended.map (·.2)).Nodup :=
    hplaced.nodup_iff.mpr (List.nodup_range.map (add_right_injective first))
  have hfound : ∀ i < rs.length, ∃ time, (time, first + i) ∈ ended := by
    intro i hi
    obtain ⟨d, hd, hslot⟩ := List.mem_map.mp
      (hplaced.mem_iff.mpr (List.mem_map_of_mem (List.mem_range.mpr hi)))
    exact ⟨d.1, hslot ▸ hd⟩
  choose! finish hfinish using hfound
  -- No two ends are in one slot, so that each is the one that was found there.
  have hended : ∀ d ∈ ended, d = (finish (d.2 - first), d.2) := by
    intro d hd
    obtain ⟨i, hi, hslot⟩ := List.mem_map.mp (hplaced.mem_iff.mp (List.mem_map_of_mem hd))
    rw [← hslot, Nat.add_sub_cancel_left]
    exact List.inj_on_of_nodup_map hnodup hd (hfinish i (List.mem_range.mp hi)) hslot.symm
  have hends : ended.Perm ((List.range rs.length).map fun i => (finish i, first + i)) := by
    calc ended = (ended.map (·.2)).map fun slot => (finish (slot - first), slot) := by
          rw [List.map_map]
          exact (List.map_id ended).symm.trans (List.map_congr_left hended)
      List.Perm _ (((List.range rs.length).map (first + ·)).map fun slot =>
          (finish (slot - first), slot)) := hplaced.map _
      _ = _ := by
          rw [List.map_map]
          exact List.map_congr_left fun i _ => by rw [Function.comp, Nat.add_sub_cancel_left]
  have hlasts : ∀ i, w.now + stagger pace i +
      (finish (first + i - first) - (w.now + stagger pace (first + i - first))) = finish i := by
    intro i
    rw [Nat.add_sub_cancel_left, add_sub_cancel]
  refine ⟨fun slot => finish (slot - first) - (w.now + stagger pace (slot - first)), hleads,
    h.offered, fun i r hr => ?_, ?_, ⟨ended, h.finishes, ?_⟩, fun hne => ⟨?_, ?_⟩⟩
  · obtain ⟨e, he, hslot, hlasted⟩ := h.lasted _ (hfinish i (List.getElem?_eq_some_iff.mp hr).1)
    obtain ⟨hplace, hget⟩ := slot_of_mem_numberedFrom he
    obtain rfl : e.1 = i := Nat.add_left_cancel (hplace.symm.trans hslot)
    obtain rfl : e.2.2 = r := Option.some.inj (hget.symm.trans hr)
    rw [Nat.add_sub_cancel_left]
    exact hlasted
  · rw [h.starts]
    refine congrArg _ ((map_numberedFrom_numberedFrom
      (fun place slot => (w.now + stagger pace place, slot)) 0 first rs).trans ?_)
    exact List.map_congr_left fun i _ => by rw [Nat.zero_add]
  · rw [batchFinishes]
    simpa only [hlasts] using hends
  · have hbegun : numberedFrom 0 (numberedFrom first rs) ≠ [] := by
      obtain ⟨r, later, rfl⟩ := List.exists_cons_of_ne_nil hne
      exact List.cons_ne_nil _ _
    obtain ⟨d, hd, hnow⟩ := h.latest rfl hbegun (Schedule.run_done _ _).2
    obtain ⟨i, hi, rfl⟩ := List.mem_map.mp (hends.mem_iff.mp hd)
    exact ⟨i, List.mem_range.mp hi, (hlasts i).trans hnow⟩
  · rintro _ ⟨i, hi, rfl⟩
    rw [hlasts]
    exact h.past _ (hfinish i hi)

end Batch

end RouteDoc.Service
