import Mathlib.Algebra.Order.Field.Basic
import Mathlib.Algebra.Order.Field.Rat
import RouteDoc.Proofs.Service.Retried

/-!
# Requests after a stop

Whether a run has been stopped is asked when an analysis begins, and not before
its requests. Attempts that follow the first are made even in a stopped run.

* `World.lateRequests`: the requests of a stopped run;
* `Traced`, `traced_synthesizeRoutes`: every request is one that an analysis may
  make which was begun when the run was not stopped;
* `exists_lateRequest`: a stop during the first of several attempts;
* `lateRequests_generative`: the efforts with which no stop at any time is
  followed by a request.
-/

namespace RouteDoc.Service

/-- The requests made when the run had been stopped. -/
def lateAmong (stopped : World → Bool) : List (Time × Event) → List (Time × Route)
  | [] => []
  | (time, .asked r) :: earlier =>
    if stopped { now := time, events := earlier } then (time, r) :: lateAmong stopped earlier
    else lateAmong stopped earlier
  | _ :: earlier => lateAmong stopped earlier

/-- The requests of a world that were made when the run had been stopped, in
order. -/
def World.lateRequests (stopped : World → Bool) (w : World) : List (Time × Route) :=
  (lateAmong stopped w.events).reverse

theorem mem_lateAmong {stopped : World → Bool} {events : List (Time × Event)} {time : Time}
    {r : Route} : (time, r) ∈ lateAmong stopped events ↔
      ∃ earlier, (time, .asked r) :: earlier <:+ events ∧
        stopped { now := time, events := earlier } = true := by
  fun_induction lateAmong stopped events with
  | case1 => simp
  | case2 time' q earlier hs ih =>
    rw [List.mem_cons, ih]
    constructor
    · rintro (he | ⟨before, hsuffix, hbefore⟩)
      · cases he
        exact ⟨earlier, List.suffix_refl _, hs⟩
      · exact ⟨before, hsuffix.trans (List.suffix_cons _ _), hbefore⟩
    · rintro ⟨before, hsuffix, hbefore⟩
      rcases List.suffix_cons_iff.mp hsuffix with he | hsuffix
      · cases he
        exact .inl rfl
      · exact .inr ⟨before, hsuffix, hbefore⟩
  | case3 time' q earlier hs ih =>
    rw [ih]
    refine exists_congr fun before => and_congr_left fun hbefore => ?_
    refine ⟨fun hsuffix => hsuffix.trans (List.suffix_cons _ _), fun hsuffix => ?_⟩
    refine (List.suffix_cons_iff.mp hsuffix).resolve_left fun he => ?_
    cases he
    exact hs hbefore
  | case4 e earlier hne ih =>
    rw [ih]
    refine exists_congr fun before => and_congr_left fun _ => ?_
    refine ⟨fun hsuffix => hsuffix.trans (List.suffix_cons _ _), fun hsuffix => ?_⟩
    refine (List.suffix_cons_iff.mp hsuffix).resolve_left fun he => ?_
    cases he
    exact hne time r rfl

theorem World.mem_lateRequests {stopped : World → Bool} {w : World} {time : Time} {r : Route} :
    (time, r) ∈ w.lateRequests stopped ↔
      ∃ earlier, (time, .asked r) :: earlier <:+ w.events ∧
        stopped { now := time, events := earlier } = true :=
  List.mem_reverse.trans mem_lateAmong

/-! ## Where requests come from -/

/-- The analysis of `r` was begun at time `began`, when the run had not been
stopped, and `events` are on record since. -/
def BegunAt (stopped : World → Bool) (slots : List (Nat × Route)) (began : Time) (r : Route)
    (events : List (Time × Event)) : Prop :=
  ∃ slot before, (slot, r) ∈ slots ∧ (began, .started slot) :: before <:+ events ∧
    stopped { now := began, events := before } = false

/-- Every request on record was made by an analysis begun before. An analysis of
`r` begun at `began` asks as `P r began` says. -/
def Traced (P : Route → Time → Time → Route → Prop) (stopped : World → Bool)
    (slots : List (Nat × Route)) (events : List (Time × Event)) : Prop :=
  ∀ ⦃time q earlier⦄, (time, .asked q) :: earlier <:+ events →
    ∃ r began, BegunAt stopped slots began r earlier ∧ P r began time q

/-- Where the requests of a schedule come from, those so far and those to come. -/
structure Tracing (P : Route → Time → Time → Route → Prop) (stopped : World → Bool)
    (slots : List (Nat × Route)) (s : Schedule Outcome) : Prop where
  traced : Traced P stopped slots s.world.events
  waiting : ∀ v ∈ s.waiting, ∃ r, (v.slot, r) ∈ slots ∧ ∀ now, v.task.Asks (P r now) now
  asleep : ∀ p ∈ s.queue, ∃ r began, BegunAt stopped slots began r s.world.events ∧
    p.task.Asks (P r began) p.due

section Trace

variable {P : Route → Time → Time → Route → Prop} {stopped : World → Bool}
  {slots : List (Nat × Route)} {s t : Schedule Outcome}

theorem BegunAt.mono {began : Time} {r : Route} {events later : List (Time × Event)}
    (h : BegunAt stopped slots began r events) (hsuffix : events <:+ later) :
    BegunAt stopped slots began r later := by
  obtain ⟨slot, before, hmem, hstarted, hs⟩ := h
  exact ⟨slot, before, hmem, hstarted.trans hsuffix, hs⟩

/-- What is no request needs no origin. -/
theorem Traced.record {w : World} (h : Traced P stopped slots w.events) {e : Event}
    (he : ∀ r, e ≠ .asked r) : Traced P stopped slots (w.record e).events := by
  intro time q earlier hsuffix
  rcases List.suffix_cons_iff.mp hsuffix with heq | hsuffix
  · exact absurd (congrArg Prod.snd (List.cons.inj heq).1).symm (he q)
  · exact h hsuffix

/-- The requests of an analysis that was begun are traced to it. -/
theorem Traced.append_asked {events : List (Time × Event)} (h : Traced P stopped slots events)
    {began now : Time} {r : Route} (hbegun : BegunAt stopped slots began r events)
    {asked : List Route} (hasked : ∀ q ∈ asked, P r began now q) :
    Traced P stopped slots (asked.map (fun q => (now, .asked q)) ++ events) := by
  induction asked with
  | nil => exact h
  | cons q asked ih =>
    intro time q' earlier hsuffix
    rcases List.suffix_cons_iff.mp hsuffix with heq | hsuffix
    · cases heq
      exact ⟨r, began, hbegun.mono (List.suffix_append _ _), hasked _ List.mem_cons_self⟩
    · exact ih (fun a ha => hasked a (List.mem_cons_of_mem _ ha)) hsuffix

theorem suffix_events_settle (slot : Nat) (due : Time) {n : Nat} (turn : Rest Outcome n × World) :
    turn.2.events <:+ (s.settle due slot turn).world.events :=
  (s.leads_settle due slot turn).events_suffix

/-- The turn of an analysis that was begun. -/
theorem Tracing.settle (h : Tracing P stopped slots s) {w : World}
    (hsuffix : s.world.events <:+ w.events) (htraced : Traced P stopped slots w.events)
    {began : Time} {r : Route} (hbegun : BegunAt stopped slots began r w.events) (slot : Nat)
    {n : Nat} {task : Task Outcome n} (hasks : task.Asks (P r began) w.now) :
    Tracing P stopped slots (s.settle w.now slot (task.turn w)) := by
  have hleads : w.events <:+ (s.settle w.now slot (task.turn w)).world.events :=
    (Task.leads_turn task w).events_suffix.trans (suffix_events_settle slot w.now _)
  obtain ⟨asked, hasked, hevents⟩ := Task.events_turn hasks
  have hturn : Traced P stopped slots (task.turn w).2.events :=
    hevents ▸ htraced.append_asked hbegun hasked
  refine ⟨?_, ?_, fun p hp => ?_⟩
  · generalize task.turn w = turn at hturn
    obtain ⟨_ | _, w'⟩ := turn
    · exact hturn.record (by simp)
    · exact hturn
  · rw [Schedule.waiting_settle]
    exact h.waiting
  · rcases (s.mem_queue_settle w.now slot _).mp hp with hp | ⟨m, seconds, next, hm, hrest, rfl⟩
    · obtain ⟨r', began', hbegun', hasks'⟩ := h.asleep p hp
      exact ⟨r', began', hbegun'.mono (hsuffix.trans hleads), hasks'⟩
    · exact ⟨r, began, hbegun.mono hleads, Task.asks_of_turn hasks hrest⟩

/-- A turn makes no request but those of an analysis begun in a run that has not
been stopped. -/
theorem tracing_step (hlasting : Lasting stopped) (h : Tracing P stopped slots s)
    (hstep : s.step stopped = some t) : Tracing P stopped slots t := by
  rcases Schedule.step_cases hstep with ⟨v, waiting, hv, -, rfl⟩ | ⟨p, queue, hp, -, rfl⟩
  · obtain ⟨r, hmem, hasks⟩ := h.waiting v (hv ▸ List.mem_cons_self)
    have hrest : Tracing P stopped slots { s with waiting } :=
      ⟨h.traced, fun u hu => h.waiting u (hv ▸ List.mem_cons_of_mem v hu), h.asleep⟩
    cases hs : stopped (s.world.setNow v.due) with
    | true =>
      rw [Schedule.start_of_stopped (s := { s with waiting }) hs]
      refine ⟨h.traced.record (w := s.world.setNow v.due) (by simp), hrest.waiting, fun p hp => ?_⟩
      obtain ⟨r', began, hbegun, hasks'⟩ := h.asleep p hp
      exact ⟨r', began, hbegun.mono (List.suffix_cons _ _), hasks'⟩
    | false =>
      rw [Schedule.start_of_not_stopped (s := { s with waiting }) hs]
      refine hrest.settle (w := (s.world.setNow v.due).record (.started v.slot))
        (List.suffix_cons _ _) (h.traced.record (w := s.world.setNow v.due) (by simp))
        ⟨v.slot, s.world.events, hmem, List.suffix_refl _, ?_⟩ v.slot (hasks v.due)
      rw [← hs]
      exact hlasting.congr rfl rfl
  · obtain ⟨r, began, hbegun, hasks⟩ := h.asleep p (hp ▸ List.mem_cons_self)
    have hrest : Tracing P stopped slots { s with queue } :=
      ⟨h.traced, h.waiting, fun q hq => h.asleep q (hp ▸ List.mem_cons_of_mem p hq)⟩
    exact hrest.settle (w := s.world.setNow p.due) (List.suffix_refl _) h.traced hbegun p.slot hasks

variable {pace : Pace} {synthesizer : Synthesizer}

/-- The requests of all batches are traced. -/
theorem traced_runBatches (hlasting : Lasting stopped)
    (hasks : ∀ r now, (synthesizer.task r).Asks (P r now) now) {bs : List (List (Nat × Route))}
    (hslots : ∀ batch ∈ bs, batch ⊆ slots) {w : World} (h : Traced P stopped slots w.events) :
    Traced P stopped slots (runBatches pace synthesizer stopped bs w).2.events := by
  induction bs generalizing w with
  | nil => exact h
  | cons batch later ih =>
    rw [runBatches]
    split
    · exact h
    · have hbatch : Tracing P stopped slots
          (batchSchedule pace synthesizer batch (w.record .opened)) := by
        refine ⟨h.record (by simp), fun v hv => ?_, fun p hp => absurd hp List.not_mem_nil⟩
        obtain ⟨⟨place, slot, r⟩, hmem, rfl⟩ := List.mem_map.mp hv
        refine ⟨r, hslots batch List.mem_cons_self ?_, fun now => (hasks r now).map _⟩
        exact map_snd_numberedFrom 0 batch ▸ List.mem_map_of_mem hmem
      have hrun := (Schedule.run_induction (tracing_step hlasting) hbatch).traced
      refine ih (fun b hb => hslots b (List.mem_cons_of_mem _ hb)) ?_
      rw [pauseBefore]
      split <;> exact hrun

/-- In every run a request is made only by an analysis that was begun when the
run had not been stopped. -/
theorem traced_synthesizeRoutes (hsize : 1 ≤ pace.batchSize) (hlasting : Lasting stopped)
    (hasks : ∀ r now, (synthesizer.task r).Asks (P r now) now) (routes : List Route)
    (script : Script) :
    ∃ result w', synthesizeRoutes pace synthesizer stopped routes { script } = .ok (result, w') ∧
      Traced P stopped (numberedFrom 0 routes) w'.events := by
  obtain ⟨bs, hbs, hflat⟩ := batches_of_pos hsize (numberedFrom 0 routes)
  refine ⟨_, _, synthesizeRoutes_eq hbs _,
    traced_runBatches hlasting hasks (fun batch hbatch => ?_) ?_⟩
  · exact hflat ▸ fun e he => List.mem_flatten.mpr ⟨batch, hbatch, he⟩
  · intro time q earlier hsuffix
    exact absurd (List.suffix_nil.mp hsuffix) (List.cons_ne_nil _ _)

end Trace

/-! ## A run with one analysis -/

/-- A run with one route, not stopped when its analysis begins, carries that
through. -/
theorem exists_single (synthesizer : Synthesizer) {stopped : World → Bool} {w : World}
    (h : stopped w = false) (hopened : stopped (w.record .opened) = false) (r : Route) :
    ∃ result, synthesizeRoutes {} synthesizer stopped [r] w = .ok (result,
      ((synthesizer.task r).finish ((w.record .opened).record (.started 0))).2.record
        (.ended 0)) := by
  have hbatches : batches ({} : Pace).batchSize (numberedFrom 0 [r]) = .ok [[(0, r)]] := by
    simp [batches, batchesOf, numberedFrom]
  have hrun : (runBatches {} synthesizer stopped [[(0, r)]] w).2 =
      ((synthesizer.task r).finish ((w.record .opened).record (.started 0))).2.record
        (.ended 0) := by
    have hdue : (waitingFor {} synthesizer w.now (0, 0, r)).due = (w.record .opened).now := by
      rw [waitingFor, stagger_zero]
      exact Rat.add_zero _
    have hworld := run_waiting hdue hopened
    rw [waitingFor, Task.finish_map] at hworld
    rw [runBatches, if_neg (Bool.eq_false_iff.mp h)]
    exact hworld
  exact ⟨_, by rw [synthesizeRoutes_eq hbatches w, hrun]⟩

/-- Attempts for which an answer is waited for begin with a request. -/
theorem asked_finish_attempts {s : Effort} {r : Route} {left number : Nat}
    {reason : String} {w : World} (hpatience : ∀ limit, s.patience = some limit → 0 < limit) :
    (w.now, .asked r) :: w.events <:+
      ((attempts s r (left + 1) number reason).finish w).2.events := by
  have hask : (w.now, .asked r) :: w.events <:+ (w.attempted s r).events := List.suffix_refl _
  rw [finish_attempts_succ hpatience]
  split
  · split
    · exact hask
    · exact hask.trans ((World.leads_sleep _ _).trans (Task.leads_finish _ _)).events_suffix
  · exact hask

/-- The script whose only reply is a failure. -/
def failing (delay : Time) : Script := [("*", [{ delay, answer := .failure "" }])]

theorem next_failing (delay : Time) (r : Route) :
    Script.next (failing delay) r = (⟨delay, .failure ""⟩, failing delay) := by
  rw [Script.next, failing, Script.key_star]
  rfl

/-- Where an attempt fails, the next one asks again. -/
theorem exists_retry {s : Effort} {delay : Time} (hdelay : 0 ≤ delay)
    (hpatience : ∀ limit, s.patience = some limit → 0 < limit ∧ delay < limit) (r : Route)
    (left number : Nat) (reason : String) {w : World} (hw : w.script = failing delay) :
    ∃ time earlier, (time, .asked r) :: earlier <:+
        ((attempts s r (left + 2) number reason).finish w).2.events ∧ w.now + delay ≤ time := by
  have hpos := fun limit hlimit => (hpatience limit hlimit).1
  have hreply : (w.script.next r).1 = ⟨delay, .failure ""⟩ := by rw [hw, next_failing]
  have hfailed : attempt s ⟨delay, .failure ""⟩ = .failed "" := by
    rw [attempt]
    split <;> rfl
  have hnext : (attempts s r (left + 2) number reason).finish w =
      (attempts s r (left + 1) (number + 1) "").finish
        ((w.attempted s r).sleep (pauseAfter s number)) := by
    rw [finish_attempts_succ hpos, hreply, hfailed]
    exact if_neg (Nat.succ_ne_zero left)
  rw [hnext]
  refine ⟨_, _, asked_finish_attempts hpos, ?_⟩
  calc w.now + delay = (w.attempted s r).now := by
        rw [World.attempted, hreply, held_of_lt fun limit hlimit => (hpatience limit hlimit).2,
          wait, if_neg (not_lt.mpr hdelay)]
    _ ≤ _ := (World.leads_sleep _ _).now_le

/-- Where there is more than one attempt, a stop while the first fails is
followed by a request. -/
theorem exists_lateRequest {s : Effort} (hattempts : 2 ≤ s.maxAttempts) {delay : Time}
    (hdelay : 0 < delay) (hpatience : ∀ limit, s.patience = some limit → 0 < limit ∧ delay < limit)
    (r : Route) :
    ∃ result w', synthesizeRoutes {} (.generative s) (Stop.atTime delay).holds [r]
        { script := failing delay } = .ok (result, w') ∧
      w'.lateRequests (Stop.atTime delay).holds ≠ [] := by
  have hrunning : (Stop.atTime delay).holds { script := failing delay } = false :=
    decide_eq_false (not_le.mpr hdelay)
  obtain ⟨result, hrun⟩ := exists_single (.generative s) hrunning hrunning r
  refine ⟨result, _, hrun, ?_⟩
  obtain ⟨left, hleft⟩ : ∃ left, s.maxAttempts.toNat = left + 2 :=
    ⟨s.maxAttempts.toNat - 2, by omega⟩
  obtain ⟨time, earlier, hasked, hle⟩ := exists_retry hdelay.le hpatience r left 1 ""
    (w := (World.record { script := failing delay } .opened).record (.started 0)) rfl
  have hlate : delay ≤ time := (zero_add delay).symm.trans_le hle
  rw [← hleft] at hasked
  exact List.ne_nil_of_mem (World.mem_lateRequests.mpr
    ⟨earlier, hasked.trans (List.suffix_cons _ _), decide_eq_true hlate⟩)

/-- An answer may take some time and still be waited for, if any answer is. -/
theorem exists_delay {s : Effort} (h : ∀ limit, s.patience = some limit → 0 < limit) :
    ∃ delay : Time, 0 < delay ∧
      ∀ limit, s.patience = some limit → 0 < limit ∧ delay < limit := by
  cases hpatience : s.patience with
  | none => exact ⟨1, one_pos, nofun⟩
  | some limit =>
    have hpos := h limit hpatience
    refine ⟨limit / 2, half_pos hpos, fun limit' hlimit => ?_⟩
    obtain rfl := Option.some.inj hlimit
    exact ⟨hpos, half_lt_self hpos⟩

/-- Every request of a run is made by an analysis of its route that was begun
when the run had not been stopped, and at that time if there is one attempt only.
A stop at some time is followed by no request, whatever the pace, the routes and
the replies, just where there is one attempt or no answer is waited for. A stop that
comes within an instant, as with a request, may even with one attempt be followed by
requests of analyses begun before it, but by the first part only in that instant. -/
theorem lateRequests_generative (s : Effort) :
    (∀ (pace : Pace) (stopped : World → Bool) (routes : List Route) (script : Script),
      1 ≤ pace.batchSize → Lasting stopped →
      ∃ result w',
        synthesizeRoutes pace (.generative s) stopped routes { script } = .ok (result, w') ∧
        ∀ time r earlier, (time, .asked r) :: earlier <:+ w'.events →
          ∃ slot began before, routes[slot]? = some r ∧
            (began, .started slot) :: before <:+ earlier ∧
            stopped { now := began, events := before } = false ∧
            began ≤ time ∧ (s.maxAttempts ≤ 1 → time = began)) ∧
    ((∀ (pace : Pace) (stop : Time) (routes : List Route) (script : Script), 1 ≤ pace.batchSize →
      ∃ result w',
        synthesizeRoutes pace (.generative s) (Stop.atTime stop).holds routes { script } =
          .ok (result, w') ∧
        w'.lateRequests (Stop.atTime stop).holds = []) ↔
      s.maxAttempts ≤ 1 ∨ ∃ limit, s.patience = some limit ∧ limit ≤ 0) := by
  have htraced : ∀ {pace : Pace} {stopped : World → Bool} (routes : List Route) (script : Script),
      1 ≤ pace.batchSize → Lasting stopped → ∃ result w',
        synthesizeRoutes pace (.generative s) stopped routes { script } = .ok (result, w') ∧
        Traced (fun r => MayAsk s r s.maxAttempts.toNat) stopped (numberedFrom 0 routes) w'.events :=
    fun routes script hsize hlasting => traced_synthesizeRoutes hsize hlasting
      (fun r now => asks_attempts s r _ 1 "" now) routes script
  constructor
  · intro pace stopped routes script hsize hlasting
    obtain ⟨result, w', hrun, h⟩ := htraced routes script hsize hlasting
    refine ⟨result, w', hrun, fun time r earlier hsuffix => ?_⟩
    obtain ⟨q, began, ⟨slot, before, hmem, hstarted, hs⟩, hask⟩ := h hsuffix
    obtain rfl := hask.about
    exact ⟨slot, began, before, (getElem?_of_mem_numberedFrom hmem).2, hstarted, hs, hask.le,
      fun hone => hask.at_once (by omega)⟩
  constructor
  · intro h
    by_contra hnot
    obtain ⟨hattempts, hpatience⟩ := not_or.mp hnot
    obtain ⟨delay, hdelay, hlimit⟩ := exists_delay fun limit hlimit =>
      not_le.mp fun hle => hpatience ⟨limit, hlimit, hle⟩
    obtain ⟨result, w', hrun, hlate⟩ :=
      exists_lateRequest (by omega) hdelay hlimit { method := "GET", path := "/" }
    obtain ⟨_, _, hrun', hnone⟩ := h {} delay [{ method := "GET", path := "/" }] (failing delay)
      (by decide)
    cases hrun.symm.trans hrun'
    exact hlate hnone
  · intro h pace stop routes script hsize
    obtain ⟨result, w', hrun, htraced⟩ := htraced routes script hsize (Stop.lasting (.atTime stop))
    refine ⟨result, w', hrun, List.eq_nil_iff_forall_not_mem.mpr fun (time, q) hmem => ?_⟩
    obtain ⟨earlier, hsuffix, hlate⟩ := World.mem_lateRequests.mp hmem
    obtain ⟨r, began, ⟨slot, before, -, -, hs⟩, hask⟩ := htraced hsuffix
    rcases h with hone | ⟨limit, hlimit, hle⟩
    · obtain rfl := hask.at_once (by omega)
      exact of_decide_eq_false hs (of_decide_eq_true hlate)
    · exact absurd (hask.patient limit hlimit) (not_lt.mpr hle)

/-- The stop comes with the first of three requests, which ask about the one
route at intervals. -/
theorem requests_after_stop :
    (synthesizeRoutes {} (.generative {}) (Stop.afterRequests 1).holds
      [{ method := "GET", path := "/a" }]
      { script := [("*", [{ answer := .failure "down" }])] }).toOption.map
        (fun (_, w') => (w'.requests, w'.lateRequests (Stop.afterRequests 1).holds)) =
      some ([(0, { method := "GET", path := "/a" }), (1, { method := "GET", path := "/a" }),
          (3, { method := "GET", path := "/a" })],
        [(1, { method := "GET", path := "/a" }), (3, { method := "GET", path := "/a" })]) := by
  decide +kernel

end RouteDoc.Service
