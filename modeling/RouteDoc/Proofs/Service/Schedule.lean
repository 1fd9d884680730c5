import RouteDoc.Proofs.Service.World

/-!
# How schedules go on

One turn after another, each of the task that is due first: time does not run
back, and what one turn keeps all of them keep.

* `Schedule.run_induction`, `Schedule.run_done`: what every turn keeps holds at
  the end, where no task is left;
* `Schedule.mem_queue_settle`, `Schedule.mem_ends_settle`: where a task is after
  its turn;
* `Schedule.Timely`, `Schedule.timely_step`: tasks are kept in the order of
  their turns, so that each turn leads from one world to the next, and so do
  all of them (`Schedule.timely_run_induction`).
-/

namespace RouteDoc.Service

theorem mem_enqueue {α : Type} {p q : Pending α} {queue : List (Pending α)} :
    q ∈ enqueue p queue ↔ q = p ∨ q ∈ queue := by
  induction queue with
  | nil => exact List.mem_cons
  | cons r queue ih =>
    rw [enqueue]
    split
    · exact List.mem_cons
    · rw [List.mem_cons, ih, List.mem_cons]
      exact or_left_comm

theorem pairwise_enqueue {α : Type} {p : Pending α} {queue : List (Pending α)}
    (h : queue.Pairwise (·.due ≤ ·.due)) : (enqueue p queue).Pairwise (·.due ≤ ·.due) := by
  induction queue with
  | nil => exact List.pairwise_singleton _ p
  | cons r queue ih =>
    obtain ⟨hr, hqueue⟩ := List.pairwise_cons.mp h
    rw [enqueue]
    split
    · rename_i hlt
      refine List.pairwise_cons.mpr ⟨fun q hq => ?_, h⟩
      rcases List.mem_cons.mp hq with rfl | hq
      · exact hlt.le
      · exact hlt.le.trans (hr q hq)
    · rename_i hle
      refine List.pairwise_cons.mpr ⟨fun q hq => ?_, ih hqueue⟩
      rcases mem_enqueue.mp hq with rfl | hq
      · exact not_lt.mp hle
      · exact hr q hq

namespace Schedule

variable {α : Type} {stopped : World → Bool}

/-! ## All turns -/

theorem run_of_step {s t : Schedule α} (h : s.step stopped = some t) :
    s.run stopped = t.run stopped := by
  rw [run]
  split <;> simp_all

theorem run_of_done {s : Schedule α} (hwaiting : s.waiting = []) (hqueue : s.queue = []) :
    s.run stopped = s := by
  rw [run]
  split
  · rfl
  · rename_i hs
    rw [step_eq_none.mpr ⟨hwaiting, hqueue⟩] at hs
    cases hs

/-- What every turn keeps holds after all of them. -/
theorem run_induction {P : Schedule α → Prop}
    (hstep : ∀ {s t : Schedule α}, P s → s.step stopped = some t → P t) {s : Schedule α}
    (h : P s) : P (s.run stopped) := by
  fun_induction run stopped s with
  | case1 s hs => exact h
  | case2 s t hs ih => exact ih (hstep h hs)

/-- After all turns no task is left. -/
theorem run_done (stopped : World → Bool) (s : Schedule α) :
    (s.run stopped).waiting = [] ∧ (s.run stopped).queue = [] := by
  fun_induction run stopped s with
  | case1 s hs => exact step_eq_none.mp hs
  | case2 s t hs ih => exact ih

/-! ## One turn -/

theorem start_of_stopped {s : Schedule α} {v : Waiting α}
    (h : stopped (s.world.setNow v.due) = true) :
    s.start stopped v = s.settle v.due v.slot
      ((.ended v.otherwise : Rest α v.steps), s.world.setNow v.due) := by
  rw [start, if_pos h]

theorem start_of_not_stopped {s : Schedule α} {v : Waiting α}
    (h : stopped (s.world.setNow v.due) = false) :
    s.start stopped v = s.settle v.due v.slot
      (v.task.turn ((s.world.setNow v.due).record (.started v.slot))) := by
  rw [start, if_neg (Bool.eq_false_iff.mp h)]

section Settle

variable (s : Schedule α) (due : Time) (slot : Nat) {n : Nat} (turn : Rest α n × World)

theorem waiting_settle : (s.settle due slot turn).waiting = s.waiting := by
  obtain ⟨_ | _, w⟩ := turn <;> rfl

theorem now_settle : (s.settle due slot turn).world.now = turn.2.now := by
  obtain ⟨_ | _, w⟩ := turn <;> rfl

theorem script_settle : (s.settle due slot turn).world.script = turn.2.script := by
  obtain ⟨_ | _, w⟩ := turn <;> rfl

theorem leads_settle : turn.2.Leads (s.settle due slot turn).world := by
  obtain ⟨_ | _, w⟩ := turn
  · exact w.leads_record _
  · exact .refl w

theorem startedSlots_settle :
    (s.settle due slot turn).world.startedSlots = turn.2.startedSlots := by
  obtain ⟨_ | _, w⟩ := turn
  · exact (w.startedSlots_record _).trans (List.append_nil _)
  · rfl

/-- A task that sleeps after its turn joins the queue. -/
theorem mem_queue_settle {p : Pending α} :
    p ∈ (s.settle due slot turn).queue ↔ p ∈ s.queue ∨
      ∃ (m : Nat) (seconds : Time) (next : Task α m) (h : m < n),
        turn.1 = .asleep seconds next h ∧ p = ⟨due + wait seconds, slot, next⟩ := by
  obtain ⟨result | ⟨seconds, next, h⟩, w⟩ := turn
  · simp [settle]
  · refine mem_enqueue.trans (or_comm.trans (or_congr_right ⟨fun hp => ?_, ?_⟩))
    · exact ⟨_, seconds, next, h, rfl, hp⟩
    · rintro ⟨_, _, _, _, he, hp⟩
      cases he
      exact hp

/-- A task that has ended leaves its result. -/
theorem mem_ends_settle {d : Ended α} :
    d ∈ (s.settle due slot turn).ends ↔ d ∈ s.ends ∨
      ∃ result, turn.1 = .ended result ∧ d = ⟨slot, result, due⟩ := by
  obtain ⟨result | ⟨seconds, next, h⟩, w⟩ := turn
  · refine List.mem_append.trans (or_congr_right ⟨fun hd => ?_, ?_⟩)
    · exact ⟨result, rfl, List.mem_singleton.mp hd⟩
    · rintro ⟨_, he, hd⟩
      cases he
      exact List.mem_singleton.mpr hd
  · simp [settle]

end Settle

/-! ## The order of turns -/

/-- Tasks stand in the order of their turns, and none is due before `time`. -/
structure DueFrom (time : Time) (s : Schedule α) : Prop where
  waiting_sorted : s.waiting.Pairwise (·.due ≤ ·.due)
  queue_sorted : s.queue.Pairwise (·.due ≤ ·.due)
  le_waiting : ∀ v ∈ s.waiting, time ≤ v.due
  le_queue : ∀ p ∈ s.queue, time ≤ p.due

/-- No task is overdue. -/
def Timely (s : Schedule α) : Prop := DueFrom s.world.now s

theorem DueFrom.settle {s : Schedule α} {due : Time} (h : DueFrom due s) (slot : Nat) {n : Nat}
    (turn : Rest α n × World) : DueFrom due (s.settle due slot turn) := by
  refine ⟨waiting_settle s due slot turn ▸ h.waiting_sorted, ?_,
    waiting_settle s due slot turn ▸ h.le_waiting, fun p hp => ?_⟩
  · obtain ⟨_ | _, w⟩ := turn
    · exact h.queue_sorted
    · exact pairwise_enqueue h.queue_sorted
  · rcases (mem_queue_settle s due slot turn).mp hp with hp | ⟨_, seconds, _, _, -, rfl⟩
    · exact h.le_queue p hp
    · exact le_add_wait due seconds

/-- Once the first task to begin has its turn, all others are due from then on. -/
theorem DueFrom.of_waiting {s : Schedule α} {time : Time} (h : DueFrom time s) {v : Waiting α}
    {waiting : List (Waiting α)} (hv : s.waiting = v :: waiting)
    (hmin : ∀ p ∈ s.queue.head?, v.due ≤ p.due) : DueFrom v.due { s with waiting } := by
  obtain ⟨hle, hsorted⟩ := List.pairwise_cons.mp (hv ▸ h.waiting_sorted)
  refine ⟨hsorted, h.queue_sorted, hle, fun p hp => ?_⟩
  cases hq : s.queue with
  | nil => exact absurd (hq ▸ hp) List.not_mem_nil
  | cons q queue =>
    have hhead : v.due ≤ q.due := hmin q (by rw [hq]; rfl)
    rcases List.mem_cons.mp (hq ▸ hp) with rfl | hp
    · exact hhead
    · exact hhead.trans ((List.pairwise_cons.mp (hq ▸ h.queue_sorted)).1 p hp)

/-- Once the first task that sleeps has its turn, all others are due from then on. -/
theorem DueFrom.of_queue {s : Schedule α} {time : Time} (h : DueFrom time s) {p : Pending α}
    {queue : List (Pending α)} (hp : s.queue = p :: queue)
    (hmin : ∀ v ∈ s.waiting.head?, p.due < v.due) : DueFrom p.due { s with queue } := by
  obtain ⟨hle, hsorted⟩ := List.pairwise_cons.mp (hp ▸ h.queue_sorted)
  refine ⟨h.waiting_sorted, hsorted, fun v hv => ?_, hle⟩
  cases hw : s.waiting with
  | nil => exact absurd (hw ▸ hv) List.not_mem_nil
  | cons u waiting =>
    have hhead : p.due ≤ u.due := (hmin u (by rw [hw]; rfl)).le
    rcases List.mem_cons.mp (hw ▸ hv) with rfl | hv
    · exact hhead
    · exact hhead.trans ((List.pairwise_cons.mp (hw ▸ h.waiting_sorted)).1 v hv)

theorem leads_now {w : World} {time : Time} (h : w.now ≤ time) : w.Leads (w.setNow time) :=
  ⟨h, List.suffix_refl _⟩

theorem leads_start {s : Schedule α} {v : Waiting α} (h : s.world.now ≤ v.due) :
    s.world.Leads (s.start stopped v).world := by
  cases hs : stopped (s.world.setNow v.due) with
  | true =>
    rw [start_of_stopped hs]
    exact (leads_now h).trans (leads_settle s _ _ (.ended _, _))
  | false =>
    rw [start_of_not_stopped hs]
    exact (leads_now h).trans ((World.leads_record _ _).trans
      ((Task.leads_turn _ _).trans (leads_settle _ _ _ _)))

theorem leads_resume {s : Schedule α} {p : Pending α} (h : s.world.now ≤ p.due) :
    s.world.Leads (s.resume p).world :=
  (leads_now h).trans ((Task.leads_turn _ _).trans (leads_settle _ _ _ _))

theorem now_start (s : Schedule α) (v : Waiting α) : (s.start stopped v).world.now = v.due := by
  rw [start, now_settle]
  split
  · rfl
  · exact Task.now_turn _ _

theorem now_resume (s : Schedule α) (p : Pending α) : (s.resume p).world.now = p.due := by
  rw [resume, now_settle, Task.now_turn]
  rfl

/-- A turn of a schedule in order leaves it in order, and time goes on. -/
theorem timely_step {s t : Schedule α} (h : s.Timely) (hstep : s.step stopped = some t) :
    t.Timely ∧ s.world.Leads t.world := by
  rcases step_cases hstep with ⟨v, waiting, hv, hmin, rfl⟩ | ⟨p, queue, hp, hmin, rfl⟩
  · have hle : s.world.now ≤ v.due := h.le_waiting v (hv ▸ List.mem_cons_self)
    refine ⟨?_, leads_start (s := { s with waiting }) hle⟩
    rw [Timely, now_start]
    exact (h.of_waiting hv hmin).settle _ _
  · have hle : s.world.now ≤ p.due := h.le_queue p (hp ▸ List.mem_cons_self)
    refine ⟨?_, leads_resume (s := { s with queue }) hle⟩
    rw [Timely, now_resume]
    exact (h.of_queue hp hmin).settle _ _

/-- What every turn of a schedule in order keeps holds after all of them, and time
goes on. -/
theorem timely_run_induction {P : Schedule α → Prop}
    (hstep : ∀ {s t : Schedule α}, s.Timely → P s → s.step stopped = some t → P t)
    {s : Schedule α} (htimely : s.Timely) (h : P s) :
    s.world.Leads (s.run stopped).world ∧ P (s.run stopped) := by
  have hrun : (s.run stopped).Timely ∧ s.world.Leads (s.run stopped).world ∧ P (s.run stopped) := by
    refine run_induction (P := fun t => t.Timely ∧ s.world.Leads t.world ∧ P t) ?_
      ⟨htimely, .refl s.world, h⟩
    rintro t u ⟨ht, hleads, hP⟩ hu
    obtain ⟨hu', hleads'⟩ := timely_step ht hu
    exact ⟨hu', hleads.trans hleads', hstep ht hP hu⟩
  exact hrun.2

end Schedule

end RouteDoc.Service
