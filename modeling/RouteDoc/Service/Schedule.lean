import RouteDoc.Service.Task

/-!
# Schedules

Several tasks side by side. The one that is due first has its turn; of tasks
due at the same time, one that has yet to begin, and then the one that has
waited longest. A task begins only if the run has not been stopped.

* `Waiting`, `Pending`: a task that is to begin, and one that sleeps;
* `Schedule.step`: the next turn;
* `Schedule.run`: what tasks side by side come to.
-/

namespace RouteDoc.Service

/-- A task that is to begin at a time, and what it comes to if the run is
stopped before that. -/
structure Waiting (α : Type) where
  due : Time
  slot : Nat
  otherwise : α
  {steps : Nat}
  task : Task α steps

/-- A task that sleeps until a time. -/
structure Pending (α : Type) where
  due : Time
  slot : Nat
  {steps : Nat}
  task : Task α steps

/-- The result of the task in a slot, and when it came. -/
structure Ended (α : Type) where
  slot : Nat
  result : α
  time : Time

/-- The queue with one more task, behind those due no later. -/
def enqueue {α : Type} (p : Pending α) : List (Pending α) → List (Pending α)
  | [] => [p]
  | q :: queue => if p.due < q.due then p :: q :: queue else q :: enqueue p queue

/-- Tasks side by side: those to begin and those asleep, each in the order of
their turns, the results so far in the order in which they came, and the world. -/
structure Schedule (α : Type) where
  waiting : List (Waiting α) := []
  queue : List (Pending α) := []
  ends : List (Ended α) := []
  world : World

namespace Schedule

variable {α : Type}

/-- A bound on the number of turns of tasks with so many steps. -/
def turns : List Nat → Nat
  | [] => 0
  | n :: steps => n + 1 + turns steps

/-- A bound on the number of turns to come. -/
def turnsLeft (s : Schedule α) : Nat :=
  turns (s.waiting.map (·.steps)) + turns (s.queue.map (·.steps))

/-- The schedule after the turn of the task in a slot at a time. -/
def settle (s : Schedule α) (due : Time) (slot : Nat) {n : Nat} : Rest α n × World → Schedule α
  | (.ended result, w) =>
    { s with ends := s.ends ++ [⟨slot, result, due⟩], world := w.record (.ended slot) }
  | (.asleep seconds next _, w) =>
    { s with queue := enqueue ⟨due + wait seconds, slot, next⟩ s.queue, world := w }

/-- The schedule after a task has begun, or has been left out. -/
def start (stopped : World → Bool) (s : Schedule α) (v : Waiting α) : Schedule α :=
  let w := s.world.setNow v.due
  s.settle v.due v.slot
    (if stopped w then (.ended v.otherwise, w) else v.task.turn (w.record (.started v.slot)))

/-- The schedule after a task has gone on. -/
def resume (s : Schedule α) (p : Pending α) : Schedule α :=
  s.settle p.due p.slot (p.task.turn (s.world.setNow p.due))

/-- The schedule after the next turn, if there is one. -/
def step (stopped : World → Bool) (s : Schedule α) : Option (Schedule α) :=
  match s.waiting, s.queue with
  | [], [] => none
  | v :: waiting, [] => some ({ s with waiting }.start stopped v)
  | [], p :: queue => some ({ s with queue }.resume p)
  | v :: waiting, p :: queue =>
    if v.due ≤ p.due then some ({ s with waiting }.start stopped v)
    else some ({ s with queue }.resume p)

/-- A queue with a task more takes the turns of both. -/
theorem turns_enqueue (p : Pending α) (queue : List (Pending α)) :
    turns ((enqueue p queue).map (·.steps)) = p.steps + 1 + turns (queue.map (·.steps)) := by
  induction queue with
  | nil => rfl
  | cons q queue ih =>
    rw [enqueue]
    split
    · rfl
    · simp only [List.map_cons, turns, ih]
      omega

/-- The turn of a task with `n` steps adds less than that task took. -/
theorem turnsLeft_settle (s : Schedule α) (due : Time) (slot : Nat) {n : Nat}
    (turn : Rest α n × World) : (s.settle due slot turn).turnsLeft < n + 1 + s.turnsLeft := by
  match turn with
  | (.ended result, w) =>
    change s.turnsLeft < n + 1 + s.turnsLeft
    omega
  | (.asleep seconds next h, w) =>
    simp only [settle, turnsLeft, turns_enqueue]
    omega

/-- The next turn is that of the first task to begin, if none that sleeps is due
before, or else that of the first one that sleeps. -/
theorem step_cases {stopped : World → Bool} {s t : Schedule α} (h : s.step stopped = some t) :
    (∃ v waiting, s.waiting = v :: waiting ∧ (∀ p ∈ s.queue.head?, v.due ≤ p.due) ∧
      t = { s with waiting }.start stopped v) ∨
    ∃ p queue, s.queue = p :: queue ∧ (∀ v ∈ s.waiting.head?, p.due < v.due) ∧
      t = { s with queue }.resume p := by
  unfold step at h
  split at h
  · cases h
  · rename_i v waiting hw hq
    exact .inl ⟨v, waiting, hw, by simp [hq], (Option.some.inj h).symm⟩
  · rename_i p queue hw hq
    exact .inr ⟨p, queue, hq, by simp [hw], (Option.some.inj h).symm⟩
  · rename_i v waiting p queue hw hq
    split at h
    · rename_i hle
      exact .inl ⟨v, waiting, hw, by simpa [hq] using hle, (Option.some.inj h).symm⟩
    · rename_i hlt
      exact .inr ⟨p, queue, hq, by simpa [hw] using Rat.not_le.mp hlt, (Option.some.inj h).symm⟩

/-- No turn is left once nothing waits or sleeps. -/
theorem step_eq_none {stopped : World → Bool} {s : Schedule α} :
    s.step stopped = none ↔ s.waiting = [] ∧ s.queue = [] := by
  unfold step
  split <;> simp_all
  split <;> simp

theorem turnsLeft_step {stopped : World → Bool} {s t : Schedule α}
    (h : s.step stopped = some t) : t.turnsLeft < s.turnsLeft := by
  rcases step_cases h with ⟨v, waiting, hw, -, rfl⟩ | ⟨p, queue, hq, -, rfl⟩
  · refine Nat.lt_of_lt_of_eq (turnsLeft_settle _ _ _ _) ?_
    simp only [turnsLeft, hw, List.map_cons, turns]
    omega
  · refine Nat.lt_of_lt_of_eq (turnsLeft_settle _ _ _ _) ?_
    simp only [turnsLeft, hq, List.map_cons, turns]
    omega

/-- The schedule after all turns. -/
def run (stopped : World → Bool) (s : Schedule α) : Schedule α :=
  match _h : s.step stopped with
  | none => s
  | some t => t.run stopped
  termination_by s.turnsLeft
  decreasing_by exact turnsLeft_step _h

end Schedule

/-- The results of tasks that sleep, in the order in which they come, and the
world after that. -/
def run {α : Type} (stopped : World → Bool) (queue : List (Pending α)) (w : World) :
    List (Ended α) × World :=
  let s := Schedule.run stopped { queue, world := w }
  (s.ends, s.world)

end RouteDoc.Service
