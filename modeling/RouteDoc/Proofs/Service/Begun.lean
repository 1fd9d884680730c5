import Mathlib.Data.List.Forall2
import Mathlib.Data.Nat.Cast.Order.Ring
import RouteDoc.Proofs.Service.Attempts
import RouteDoc.Proofs.Service.Schedule

/-!
# Which analyses are begun

The analyses of a batch begin in the order of its routes. Once one is left out
the run has been stopped, so that those after it are left out too, in this batch
and in all later ones.

* `Standing`, `exists_standing_step`: where the analyses of a batch stand, and that a
  turn moves at most one of them on;
* `Concluded`, `exists_concluded`: what the batches of a run come to;
* `exists_outcomes`: the outcomes of a run;
* `startedSlots_eq_range`: the analyses begun are those of the first routes, and
  the others are as if cancelled.
-/

namespace RouteDoc.Service

/-- An outcome that the analysis of a route may have. -/
def Synthesizer.Yields (synthesizer : Synthesizer) (offers : Route → List Reply) (r : Route)
    (o : Outcome) : Prop :=
  ∃ result, (synthesizer.task r).Ends offers result ∧ o = settled r result

/-- A task that begins the analysis of the route in a slot. -/
structure Awaits (synthesizer : Synthesizer) (offers : Route → List Reply) (v : Waiting Outcome)
    (e : Nat × Route) : Prop where
  slot : v.slot = e.1
  otherwise : v.otherwise = cancelled e.2
  yields : ∀ o, v.task.Ends offers o → synthesizer.Yields offers e.2 o

/-- The results so far are those of analyses that were begun, or of routes that
were left out; every analysis begun is asleep, has ended, or is in hand. -/
structure Accounts (synthesizer : Synthesizer) (offers : Route → List Reply) (inHand : Option Nat)
    (begun leftOut : List (Nat × Route)) (s : Schedule Outcome) : Prop where
  asleep : ∀ p ∈ s.queue, ∃ e ∈ begun, p.slot = e.1 ∧
    ∀ o, p.task.Ends offers o → synthesizer.Yields offers e.2 o
  ended : ∀ d ∈ s.ends, (∃ e ∈ begun, d.slot = e.1 ∧ synthesizer.Yields offers e.2 d.result) ∨
    ∃ e ∈ leftOut, d.slot = e.1 ∧ d.result = cancelled e.2
  found : ∀ e ∈ begun, inHand = some e.1 ∨ (∃ p ∈ s.queue, p.slot = e.1) ∨
    ∃ d ∈ s.ends, d.slot = e.1

/-- Where the analyses of a batch stand: some were begun, after those in the
slots `before`, some were left out, and the rest are to begin. -/
structure Standing (synthesizer : Synthesizer) (offers : Route → List Reply)
    (stopped : World → Bool) (before : List Nat) (begun leftOut rest : List (Nat × Route))
    (s : Schedule Outcome) : Prop where
  timely : s.Timely
  offered : ∀ r, s.world.script.offers r ⊆ offers r
  started : s.world.startedSlots = before ++ begun.map (·.1)
  halted : leftOut ≠ [] → stopped s.world = true
  awaiting : List.Forall₂ (Awaits synthesizer offers) s.waiting rest
  accounts : Accounts synthesizer offers none begun leftOut s

section Batch

variable {synthesizer : Synthesizer} {offers : Route → List Reply} {stopped : World → Bool}
  {before : List Nat} {begun leftOut rest : List (Nat × Route)} {s t : Schedule Outcome}

/-- Between turns every analysis begun is asleep or has ended. -/
theorem Accounts.placed (h : Accounts synthesizer offers none begun leftOut s) {e : Nat × Route}
    (he : e ∈ begun) : (∃ p ∈ s.queue, p.slot = e.1) ∨ ∃ d ∈ s.ends, d.slot = e.1 :=
  (h.found e he).resolve_left (by simp)

/-- The analysis in hand is asleep or has ended after its turn. -/
theorem Accounts.settle {e : Nat × Route}
    (h : Accounts synthesizer offers (some e.1) begun leftOut s) (he : e ∈ begun) (due : Time)
    {n : Nat} {turn : Rest Outcome n × World}
    (hturn : ∀ o, turn.1.Ends offers o → synthesizer.Yields offers e.2 o) :
    Accounts synthesizer offers none begun leftOut (s.settle due e.1 turn) where
  asleep p hp := by
    rcases (s.mem_queue_settle due e.1 turn).mp hp with hp | ⟨m, seconds, next, hm, hrest, rfl⟩
    · exact h.asleep p hp
    · rw [hrest] at hturn
      exact ⟨e, he, rfl, hturn⟩
  ended d hd := by
    rcases (s.mem_ends_settle due e.1 turn).mp hd with hd | ⟨result, hrest, rfl⟩
    · exact h.ended d hd
    · rw [hrest] at hturn
      exact .inl ⟨e, he, rfl, hturn result rfl⟩
  found a ha := by
    rcases h.found a ha with hslot | ⟨p, hp, hslot⟩ | ⟨d, hd, hslot⟩
    · have hslot : e.1 = a.1 := Option.some.inj hslot
      cases hrest : turn.1 with
      | ended result =>
        exact .inr (.inr ⟨_, (s.mem_ends_settle due e.1 turn).mpr (.inr ⟨result, hrest, rfl⟩), hslot⟩)
      | asleep seconds next hm =>
        exact .inr (.inl ⟨_, (s.mem_queue_settle due e.1 turn).mpr
          (.inr ⟨_, seconds, next, hm, hrest, rfl⟩), hslot⟩)
    · exact .inr (.inl ⟨p, (s.mem_queue_settle due e.1 turn).mpr (.inl hp), hslot⟩)
    · exact .inr (.inr ⟨d, (s.mem_ends_settle due e.1 turn).mpr (.inl hd), hslot⟩)

/-- Routes are left out once the run has been stopped. -/
theorem Standing.leaveOut {e : Nat × Route} {v : Waiting Outcome} {waiting : List (Waiting Outcome)}
    (hlasting : Lasting stopped)
    (h : Standing synthesizer offers stopped before begun leftOut (e :: rest) s)
    (hv : s.waiting = v :: waiting) (htimely : ({ s with waiting }.start stopped v).Timely)
    (hs : stopped (s.world.setNow v.due) = true) :
    Standing synthesizer offers stopped before begun (leftOut ++ [e]) rest
      ({ s with waiting }.start stopped v) := by
  obtain ⟨hawaits, hrest⟩ := List.forall₂_cons.mp (hv ▸ h.awaiting)
  have heq := Schedule.start_of_stopped (s := { s with waiting }) hs
  rw [heq] at htimely ⊢
  refine ⟨htimely, h.offered, ?_, fun _ => ?_, hrest, h.accounts.asleep, ?_, ?_⟩
  · rw [Schedule.startedSlots_settle]
    exact h.started
  · exact hlasting (Schedule.leads_settle { s with waiting } v.due v.slot (.ended v.otherwise, _)) hs
  · intro d hd
    rcases List.mem_append.mp hd with hd | hd
    · refine (h.accounts.ended d hd).imp_right ?_
      rintro ⟨a, ha, had⟩
      exact ⟨a, List.mem_append_left _ ha, had⟩
    · obtain rfl := List.mem_singleton.mp hd
      exact .inr ⟨e, List.mem_append_right _ List.mem_cons_self, hawaits.slot, hawaits.otherwise⟩
  · intro a ha
    refine (h.accounts.found a ha).imp_right (Or.imp_right ?_)
    rintro ⟨d, hd, hslot⟩
    exact ⟨d, List.mem_append_left _ hd, hslot⟩

/-- An analysis begins as long as the run has not been stopped. -/
theorem Standing.begin {e : Nat × Route} {v : Waiting Outcome} {waiting : List (Waiting Outcome)}
    (h : Standing synthesizer offers stopped before begun [] (e :: rest) s)
    (hv : s.waiting = v :: waiting) (htimely : ({ s with waiting }.start stopped v).Timely)
    (hs : stopped (s.world.setNow v.due) = false) :
    Standing synthesizer offers stopped before (begun ++ [e]) [] rest
      ({ s with waiting }.start stopped v) := by
  obtain ⟨hawaits, hrest⟩ := List.forall₂_cons.mp (hv ▸ h.awaiting)
  have heq := Schedule.start_of_not_stopped (s := { s with waiting }) hs
  have hin : Accounts synthesizer offers (some e.1) (begun ++ [e]) [] { s with waiting } := by
    refine ⟨fun p hp => ?_, fun d hd => ?_, fun a ha => ?_⟩
    · obtain ⟨a, ha, hpa⟩ := h.accounts.asleep p hp
      exact ⟨a, List.mem_append_left _ ha, hpa⟩
    · refine (h.accounts.ended d hd).imp_left ?_
      rintro ⟨a, ha, hda⟩
      exact ⟨a, List.mem_append_left _ ha, hda⟩
    · rcases List.mem_append.mp ha with ha | ha
      · exact .inr (h.accounts.placed ha)
      · exact .inl (congrArg (some ·.1) (List.mem_singleton.mp ha).symm)
  rw [heq] at htimely ⊢
  refine ⟨htimely, fun r => ?_, ?_, fun hne => absurd rfl hne, ?_, ?_⟩
  · rw [Schedule.script_settle]
    exact List.Subset.trans (Task.offers_turn _ _ r) (h.offered r)
  · rw [Schedule.startedSlots_settle, Task.startedSlots_turn, World.startedSlots_record]
    change s.world.startedSlots ++ [v.slot] = _
    rw [h.started, hawaits.slot, List.map_append, List.append_assoc]
    rfl
  · rw [Schedule.waiting_settle]
    exact hrest
  · rw [hawaits.slot]
    exact hin.settle (List.mem_append_right _ List.mem_cons_self) _ fun o ho =>
      hawaits.yields o
        (Task.ends_of_turn (w := (s.world.setNow v.due).record (.started e.1)) h.offered ho)

/-- An analysis that was begun goes on. -/
theorem Standing.goOn {p : Pending Outcome} {queue : List (Pending Outcome)}
    (hlasting : Lasting stopped)
    (h : Standing synthesizer offers stopped before begun leftOut rest s)
    (hp : s.queue = p :: queue) (htimely : ({ s with queue }.resume p).Timely)
    (hleads : s.world.Leads ({ s with queue }.resume p).world) :
    Standing synthesizer offers stopped before begun leftOut rest ({ s with queue }.resume p) := by
  obtain ⟨e, he, hslot, hyields⟩ := h.accounts.asleep p (hp ▸ List.mem_cons_self)
  have hin : Accounts synthesizer offers (some e.1) begun leftOut { s with queue } := by
    refine ⟨fun q hq => h.accounts.asleep q (hp ▸ List.mem_cons_of_mem p hq), h.accounts.ended,
      fun a ha => ?_⟩
    rcases h.accounts.placed ha with ⟨q, hq, hqa⟩ | hd
    · rcases List.mem_cons.mp (hp ▸ hq) with rfl | hq
      · exact .inl (congrArg some (hslot.symm.trans hqa))
      · exact .inr (.inl ⟨q, hq, hqa⟩)
    · exact .inr (.inr hd)
  refine ⟨htimely, fun r => ?_, ?_, fun hne => hlasting hleads (h.halted hne), ?_, ?_⟩
  · rw [Schedule.resume, Schedule.script_settle]
    exact List.Subset.trans (Task.offers_turn _ _ r) (h.offered r)
  · rw [Schedule.resume, Schedule.startedSlots_settle, Task.startedSlots_turn]
    exact h.started
  · rw [Schedule.resume, Schedule.waiting_settle]
    exact h.awaiting
  · rw [Schedule.resume, hslot]
    exact hin.settle he _ fun o ho => hyields o
      (Task.ends_of_turn (w := s.world.setNow p.due) h.offered ho)

/-- A turn moves at most one analysis on, the first of those that are to begin. -/
theorem exists_standing_step (hlasting : Lasting stopped)
    (h : Standing synthesizer offers stopped before begun leftOut rest s)
    (hstep : s.step stopped = some t) :
    ∃ begun' leftOut' rest', begun' ++ leftOut' ++ rest' = begun ++ leftOut ++ rest ∧
      Standing synthesizer offers stopped before begun' leftOut' rest' t := by
  obtain ⟨htimely, hleads⟩ := Schedule.timely_step h.timely hstep
  rcases Schedule.step_cases hstep with ⟨v, waiting, hv, -, rfl⟩ | ⟨p, queue, hp, -, rfl⟩
  · have hle : s.world.now ≤ v.due := h.timely.le_waiting v (hv ▸ List.mem_cons_self)
    obtain ⟨e, rest', -, -, rfl⟩ := List.forall₂_cons_left_iff.mp (hv ▸ h.awaiting)
    cases hs : stopped (s.world.setNow v.due) with
    | true =>
      refine ⟨begun, leftOut ++ [e], rest', ?_, h.leaveOut hlasting hv htimely hs⟩
      simp only [List.append_assoc, List.cons_append, List.nil_append]
    | false =>
      -- Nothing has been left out so far: a stopped run stays stopped.
      obtain rfl : leftOut = [] := by
        by_contra hne
        rw [hlasting (Schedule.leads_now hle) (h.halted hne)] at hs
        cases hs
      refine ⟨begun ++ [e], [], rest', ?_, h.begin hv htimely hs⟩
      simp only [List.append_assoc, List.cons_append, List.nil_append]
  · exact ⟨begun, leftOut, rest, rfl, h.goOn hlasting hp htimely hleads⟩

end Batch

/-! ## Whole batches -/

theorem map_snd_numberedFrom {α : Type} (n : Nat) (xs : List α) :
    (numberedFrom n xs).map (·.2) = xs := by
  induction xs generalizing n with
  | nil => rfl
  | cons x xs ih => rw [numberedFrom, List.map_cons, ih]

theorem map_fst_numberedFrom {α : Type} (n : Nat) (xs : List α) :
    (numberedFrom n xs).map (·.1) = List.range' n xs.length := by
  induction xs generalizing n with
  | nil => rfl
  | cons x xs ih => rw [numberedFrom, List.map_cons, ih, List.length_cons, List.range'_succ]

theorem getElem?_of_mem_numberedFrom {α : Type} {n i : Nat} {x : α} {xs : List α}
    (h : (i, x) ∈ numberedFrom n xs) : n ≤ i ∧ xs[i - n]? = some x := by
  induction xs generalizing n with
  | nil => cases h
  | cons y xs ih =>
    rcases List.mem_cons.mp h with he | h
    · cases he
      simp
    · obtain ⟨hle, hget⟩ := ih h
      refine ⟨by omega, ?_⟩
      rw [← hget, show i - n = i - (n + 1) + 1 by omega, List.getElem?_cons_succ]

theorem flatten_batchesOf {α : Type} (size : Nat) (xs : List α) :
    (batchesOf size xs).flatten = xs := by
  fun_induction batchesOf size xs with
  | case1 => rfl
  | case2 x xs ih => rw [List.flatten_cons, ih, List.cons_append, List.take_append_drop]

theorem stagger_zero (pace : Pace) : stagger pace 0 = 0 := by
  rw [stagger, Nat.cast_zero, mul_zero]
  rfl

/-- An interval that is not negative is waited for as often as there are places
before. -/
theorem stagger_of_nonneg {pace : Pace} (h : 0 ≤ pace.requestDelay) (n : Nat) :
    stagger pace n = pace.requestDelay * n :=
  if_neg (not_lt.mpr (mul_nonneg h (Nat.cast_nonneg n)))

/-- Later places wait no less. -/
theorem stagger_mono (pace : Pace) {m n : Nat} (h : m ≤ n) : stagger pace m ≤ stagger pace n := by
  have hcast : (m : Time) ≤ n := Nat.cast_le.mpr h
  rcases lt_or_ge pace.requestDelay 0 with hneg | hnonneg
  · -- A negative interval is none.
    have hnone : ∀ k : Nat, stagger pace k = 0 := fun k => by
      have hk : pace.requestDelay * k ≤ 0 :=
        mul_nonpos_of_nonpos_of_nonneg hneg.le (Nat.cast_nonneg k)
      rw [stagger, wait]
      split
      · rfl
      · rename_i hk'
        exact le_antisymm hk (not_lt.mp hk')
    rw [hnone, hnone]
  · rw [stagger_of_nonneg hnonneg, stagger_of_nonneg hnonneg]
    exact mul_le_mul_of_nonneg_left hcast hnonneg

section Run

variable {pace : Pace} {synthesizer : Synthesizer} {offers : Route → List Reply}
  {stopped : World → Bool}

theorem awaits_waitingFor (now : Time) (place : Nat) (e : Nat × Route) :
    Awaits synthesizer offers (waitingFor pace synthesizer now (place, e)) e :=
  ⟨rfl, rfl, fun _ ho => Task.ends_map.mp ho⟩

/-- The analyses of a batch are in the order of their turns. -/
theorem timely_batchSchedule (pace : Pace) (synthesizer : Synthesizer) (batch : List (Nat × Route))
    (w : World) : (batchSchedule pace synthesizer batch w).Timely := by
  refine ⟨?_, List.Pairwise.nil, ?_, nofun⟩
  · rw [batchSchedule, List.pairwise_map]
    have hplaces : (numberedFrom 0 batch).Pairwise (·.1 < ·.1) := by
      rw [← List.pairwise_map, map_fst_numberedFrom]
      exact List.pairwise_lt_range'
    exact hplaces.imp fun h => add_le_add_right (stagger_mono pace h.le) _
  · intro v hv
    obtain ⟨⟨place, e⟩, -, rfl⟩ := List.mem_map.mp hv
    exact le_add_wait _ _

/-- Before its first turn a batch has all analyses to begin. -/
theorem standing_batchSchedule (pace : Pace) (batch : List (Nat × Route)) {w : World}
    (hoffers : ∀ r, w.script.offers r ⊆ offers r) :
    Standing synthesizer offers stopped w.startedSlots [] [] batch
      (batchSchedule pace synthesizer batch w) := by
  refine ⟨timely_batchSchedule pace synthesizer batch w, hoffers, (List.append_nil _).symm,
    fun hne => absurd rfl hne, ?_, nofun, nofun, nofun⟩
  rw [batchSchedule, List.forall₂_map_left_iff]
  have hawaits : ∀ n, List.Forall₂ (fun p e =>
      Awaits synthesizer offers (waitingFor pace synthesizer w.now p) e)
      (numberedFrom n batch) batch := by
    induction batch with
    | nil => exact fun _ => .nil
    | cons e batch ih => exact fun n => .cons (awaits_waitingFor _ _ _) (ih _)
  exact hawaits 0

/-- What analyses came to: those of `begun` were begun one after another, and
have ended; those of `leftOut` were not, since the run was stopped. -/
structure Concluded (synthesizer : Synthesizer) (offers : Route → List Reply)
    (stopped : World → Bool) (w : World) (begun leftOut : List (Nat × Route))
    (ends : List (Ended Outcome)) (w' : World) : Prop where
  offered : ∀ r, w'.script.offers r ⊆ offers r
  started : w'.startedSlots = w.startedSlots ++ begun.map (·.1)
  halted : leftOut ≠ [] → stopped w' = true
  ended : ∀ d ∈ ends, (∃ e ∈ begun, d.slot = e.1 ∧ synthesizer.Yields offers e.2 d.result) ∨
    ∃ e ∈ leftOut, d.slot = e.1 ∧ d.result = cancelled e.2
  found : ∀ e ∈ begun, ∃ d ∈ ends, d.slot = e.1

/-- What one batch comes to. -/
theorem exists_concluded_batch (pace : Pace) (hlasting : Lasting stopped)
    (batch : List (Nat × Route)) {w : World}
    (hoffers : ∀ r, w.script.offers r ⊆ offers r) :
    ∃ begun leftOut, batch = begun ++ leftOut ∧
      Concluded synthesizer offers stopped w begun leftOut
        ((batchSchedule pace synthesizer batch w).run stopped).ends
        ((batchSchedule pace synthesizer batch w).run stopped).world := by
  obtain ⟨hwaiting, hqueue⟩ := (batchSchedule pace synthesizer batch w).run_done stopped
  have hrun : ∃ begun leftOut rest, begun ++ leftOut ++ rest = batch ∧
      Standing synthesizer offers stopped w.startedSlots begun leftOut rest
        ((batchSchedule pace synthesizer batch w).run stopped) := by
    refine Schedule.run_induction (P := fun s => ∃ begun leftOut rest,
      begun ++ leftOut ++ rest = batch ∧
      Standing synthesizer offers stopped w.startedSlots begun leftOut rest s) ?_
      ⟨[], [], batch, rfl, standing_batchSchedule pace batch hoffers⟩
    rintro s t ⟨_, _, _, hbatch, h⟩ hstep
    obtain ⟨begun', leftOut', rest', heq, h'⟩ := exists_standing_step hlasting h hstep
    exact ⟨begun', leftOut', rest', heq.trans hbatch, h'⟩
  obtain ⟨begun, leftOut, rest, hbatch, h⟩ := hrun
  obtain rfl : rest = [] := List.forall₂_nil_left_iff.mp (hwaiting ▸ h.awaiting)
  refine ⟨begun, leftOut, ((List.append_nil _).symm.trans hbatch).symm,
    h.offered, h.started, h.halted, h.accounts.ended, fun e he => ?_⟩
  rcases h.accounts.placed he with ⟨p, hp, -⟩ | hd
  · exact absurd (hqueue ▸ hp) List.not_mem_nil
  · exact hd

theorem runBatches_of_stopped {bs : List (List (Nat × Route))} {w : World} (h : stopped w = true) :
    runBatches pace synthesizer stopped bs w = ([], w) := by
  cases bs with
  | nil => rfl
  | cons batch later => rw [runBatches, if_pos h]

theorem leads_pauseBefore {β : Type} (pace : Pace) (later : List β) (w : World) :
    w.Leads (pauseBefore pace later w) := by
  rw [pauseBefore]
  split
  · exact .refl w
  · exact w.leads_sleep _

/-- What all batches come to. -/
theorem exists_concluded (pace : Pace) (synthesizer : Synthesizer) (hlasting : Lasting stopped)
    (bs : List (List (Nat × Route))) {w : World}
    (hoffers : ∀ r, w.script.offers r ⊆ offers r) :
    ∃ begun leftOut, bs.flatten = begun ++ leftOut ∧
      Concluded synthesizer offers stopped w begun leftOut
        (runBatches pace synthesizer stopped bs w).1
        (runBatches pace synthesizer stopped bs w).2 := by
  induction bs generalizing w with
  | nil =>
    exact ⟨[], [], rfl, hoffers, (List.append_nil _).symm, fun h => absurd rfl h, nofun, nofun⟩
  | cons batch later ih =>
    rw [runBatches]
    split
    · rename_i hs
      exact ⟨[], _, rfl, hoffers, (List.append_nil _).symm, fun _ => hs, nofun, nofun⟩
    · obtain ⟨begun, leftOut, rfl, h⟩ :=
        exists_concluded_batch pace (w := w.record .opened) hlasting batch hoffers
      dsimp only
      generalize (batchSchedule pace synthesizer (begun ++ leftOut) (w.record .opened)).run stopped =
        s at h ⊢
      have hscript : (pauseBefore pace later s.world).script = s.world.script := by
        rw [pauseBefore]
        split <;> rfl
      have hstarted : (pauseBefore pace later s.world).startedSlots =
          w.startedSlots ++ begun.map (·.1) := by
        have hsame : (pauseBefore pace later s.world).startedSlots = s.world.startedSlots := by
          rw [pauseBefore]
          split <;> rfl
        rw [hsame, h.started, World.startedSlots_record]
        exact congrArg (· ++ begun.map (·.1)) (List.append_nil _)
      by_cases hne : leftOut = []
      · subst hne
        obtain ⟨begun', leftOut', hlater, h'⟩ := ih (w := pauseBefore pace later s.world)
          (hscript ▸ h.offered)
        refine ⟨begun ++ begun', leftOut', ?_, h'.offered, ?_, h'.halted, fun d hd => ?_,
          fun e he => ?_⟩
        · rw [List.flatten_cons, hlater, List.append_nil, List.append_assoc]
        · rw [h'.started, hstarted, List.map_append, List.append_assoc]
        · rcases List.mem_append.mp hd with hd | hd
          · rcases h.ended d hd with ⟨e, he, hde⟩ | ⟨e, he, -⟩
            · exact .inl ⟨e, List.mem_append_left _ he, hde⟩
            · cases he
          · exact (h'.ended d hd).imp_left fun ⟨e, he, hde⟩ => ⟨e, List.mem_append_right _ he, hde⟩
        · rcases List.mem_append.mp he with he | he
          · obtain ⟨d, hd, hslot⟩ := h.found e he
            exact ⟨d, List.mem_append_left _ hd, hslot⟩
          · obtain ⟨d, hd, hslot⟩ := h'.found e he
            exact ⟨d, List.mem_append_right _ hd, hslot⟩
      · -- The run has been stopped in this batch, so that no later one begins.
        have hs := hlasting (leads_pauseBefore pace later s.world) (h.halted hne)
        rw [runBatches_of_stopped hs]
        refine ⟨begun, leftOut ++ later.flatten, by rw [List.flatten_cons, List.append_assoc],
          hscript ▸ h.offered, hstarted, fun _ => hs, fun d hd => ?_, fun e he => ?_⟩
        · rw [List.append_nil] at hd
          exact (h.ended d hd).imp_right fun ⟨e, he, hde⟩ => ⟨e, List.mem_append_left _ he, hde⟩
        · rw [List.append_nil]
          exact h.found e he

/-! ## The outcomes of a run -/

/-- The first result in a slot is that of its route, where no two routes have
one slot. -/
theorem outcomeAt_concluded {w w' : World} {begun leftOut : List (Nat × Route)}
    {ends : List (Ended Outcome)} (hslots : ((begun ++ leftOut).map (·.1)).Nodup)
    (h : Concluded synthesizer offers stopped w begun leftOut ends w') :
    (∀ e ∈ begun, synthesizer.Yields offers e.2 (outcomeAt ends e.1 e.2)) ∧
      ∀ e ∈ leftOut, outcomeAt ends e.1 e.2 = cancelled e.2 := by
  have hinj : ∀ {a b : Nat × Route}, a ∈ begun ++ leftOut → b ∈ begun ++ leftOut →
      a.1 = b.1 → a = b :=
    fun ha hb => List.inj_on_of_nodup_map hslots ha hb
  have hdisjoint : ∀ {a b : Nat × Route}, a ∈ begun → b ∈ leftOut → a.1 ≠ b.1 := by
    intro a b ha hb
    rw [List.map_append] at hslots
    exact (List.nodup_append.mp hslots).2.2 _ (List.mem_map_of_mem ha) _ (List.mem_map_of_mem hb)
  refine ⟨fun e he => ?_, fun e he => ?_⟩
  · rw [outcomeAt]
    split
    · rename_i d hd
      have hslot : d.slot = e.1 := by simpa using List.find?_some hd
      rcases h.ended d (List.mem_of_find?_eq_some hd) with ⟨a, ha, hda, hyields⟩ | ⟨a, ha, hda, -⟩
      · obtain rfl := hinj (List.mem_append_left _ ha) (List.mem_append_left _ he)
          (hda.symm.trans hslot)
        exact hyields
      · exact absurd (hslot.symm.trans hda) (hdisjoint he ha)
    · rename_i hnone
      obtain ⟨d, hd, hslot⟩ := h.found e he
      exact absurd (beq_iff_eq.mpr hslot) (List.find?_eq_none.mp hnone d hd)
  · rw [outcomeAt]
    split
    · rename_i d hd
      have hslot : d.slot = e.1 := by simpa using List.find?_some hd
      rcases h.ended d (List.mem_of_find?_eq_some hd) with ⟨a, ha, hda, -⟩ | ⟨a, ha, hda, hresult⟩
      · exact absurd (hda.symm.trans hslot) (hdisjoint ha he)
      · obtain rfl := hinj (List.mem_append_right _ ha) (List.mem_append_right _ he)
          (hda.symm.trans hslot)
        exact hresult
    · rfl

theorem batches_eq {α : Type} {size : Int} (h : 1 ≤ size) (xs : List α) :
    batches size xs = .ok (batchesOf size.toNat xs) := by
  rw [batches, if_neg (by omega), if_neg (by omega)]

theorem batches_of_pos {α : Type} {size : Int} (h : 1 ≤ size) (xs : List α) :
    ∃ bs, batches size xs = .ok bs ∧ bs.flatten = xs :=
  ⟨_, batches_eq h xs, flatten_batchesOf size.toNat xs⟩

theorem synthesizeRoutes_eq {routes : List Route} {bs : List (List (Nat × Route))}
    (h : batches pace.batchSize (numberedFrom 0 routes) = .ok bs) (w : World) :
    synthesizeRoutes pace synthesizer stopped routes w =
      .ok (.ofOutcomes ((numberedFrom 0 routes).map fun e =>
        (e.2, outcomeAt (runBatches pace synthesizer stopped bs w).1 e.1 e.2)),
        (runBatches pace synthesizer stopped bs w).2) := by
  rw [synthesizeRoutes, h]
  rfl

/-- A run gives every route an outcome: some first routes one that their
analyses may have, and the others that of a route that is left out. -/
theorem exists_outcomes (pace : Pace) (synthesizer : Synthesizer) (hsize : 1 ≤ pace.batchSize)
    (hlasting : Lasting stopped) (routes : List Route) (w : World) :
    ∃ begun leftOut outcomes w', routes = begun ++ leftOut ∧
      List.Forall₂ (synthesizer.Yields w.script.offers) begun outcomes ∧
      synthesizeRoutes pace synthesizer stopped routes w =
        .ok (.ofOutcomes (begun.zip outcomes ++ leftOut.map fun r => (r, cancelled r)), w') ∧
      w'.startedSlots = w.startedSlots ++ List.range begun.length ∧
      (leftOut ≠ [] → stopped w' = true) := by
  obtain ⟨bs, hbs, hflat⟩ := batches_of_pos hsize (numberedFrom 0 routes)
  obtain ⟨begun, leftOut, hsplit, h⟩ := exists_concluded pace synthesizer
    hlasting bs (w := w) fun r => List.Subset.refl _
  rw [hflat] at hsplit
  have hroutes : routes = begun.map (·.2) ++ leftOut.map (·.2) := by
    rw [← List.map_append, ← hsplit, map_snd_numberedFrom]
  have hnumbers : (begun ++ leftOut).map (·.1) = List.range routes.length := by
    rw [← hsplit, map_fst_numberedFrom, List.range_eq_range']
  obtain ⟨hbegun, hleftOut⟩ := outcomeAt_concluded (hnumbers ▸ List.nodup_range) h
  have hlength : begun.length ≤ routes.length := by
    rw [hroutes, List.length_append, List.length_map]
    exact Nat.le_add_right _ _
  have hrange : begun.map (·.1) = List.range begun.length := by
    have htake := congrArg (List.take begun.length) hnumbers
    rwa [List.map_append, List.take_left' (List.length_map _), List.take_range,
      Nat.min_eq_left hlength] at htake
  refine ⟨begun.map (·.2), leftOut.map (·.2), begun.map fun e =>
    outcomeAt (runBatches pace synthesizer stopped bs w).1 e.1 e.2,
    (runBatches pace synthesizer stopped bs w).2, hroutes, ?_, ?_, ?_, ?_⟩
  · rw [List.forall₂_map_left_iff, List.forall₂_map_right_iff, List.forall₂_same]
    exact hbegun
  · have hcancelled : leftOut.map (fun e =>
        (e.2, outcomeAt (runBatches pace synthesizer stopped bs w).1 e.1 e.2)) =
        leftOut.map fun e => (e.2, cancelled e.2) :=
      List.map_congr_left fun e he => congrArg (Prod.mk e.2) (hleftOut e he)
    rw [synthesizeRoutes_eq hbs, hsplit, List.map_append, hcancelled, List.zip_map', List.map_map]
    rfl
  · rw [h.started, hrange, List.length_map]
  · exact fun hne => h.halted fun hnil => hne (hnil ▸ rfl)

end Run

theorem diagnostics_ofOutcomes {routes : List Route} {outcomes : List Outcome}
    (h : outcomes.length ≤ routes.length) (leftOut : List Route) :
    (BatchResult.ofOutcomes
        (routes.zip outcomes ++ leftOut.map fun r => (r, cancelled r))).diagnostics =
      outcomes.flatMap (·.diagnostics) ++ leftOut.map Diagnostic.cancelled := by
  have hzip : (routes.zip outcomes).flatMap (·.2.diagnostics) = outcomes.flatMap (·.diagnostics) := by
    rw [← List.flatMap_map, List.map_snd_zip h]
  change (routes.zip outcomes ++ leftOut.map fun r => (r, cancelled r)).flatMap
    (·.2.diagnostics) = _
  rw [List.flatMap_append, hzip, List.flatMap_map, List.map_eq_flatMap]
  rfl

/-- Every run gives each route a result, in order. The analyses begun, each once,
are those of some first routes, all of them unless the run has been stopped. Each
of these routes has an outcome of its own analysis; the others have their
template, and one diagnostic each that says so. Any other diagnostic with that
code comes from an analysis itself, and neither of the two ways to analyse a route
that are known here gives one. -/
theorem startedSlots_eq_range (pace : Pace) (hsize : 1 ≤ pace.batchSize) (synthesizer : Synthesizer)
    {stopped : World → Bool} (hlasting : Lasting stopped) (routes : List Route) (w : World) :
    ∃ k ≤ routes.length, ∃ outcomes result w',
      synthesizeRoutes pace synthesizer stopped routes w = .ok (result, w') ∧
      w'.startedSlots = w.startedSlots ++ List.range k ∧
      (k < routes.length → stopped w' = true) ∧
      List.Forall₂ (synthesizer.Yields w.script.offers) (routes.take k) outcomes ∧
      result.results =
        List.zipWith (fun r (o : Outcome) => ⟨r, o.analysis, o.strategy⟩) (routes.take k) outcomes ++
          (routes.drop k).map (fun r => ⟨r, templateAnalysis r, .template⟩) ∧
      result.diagnostics =
        outcomes.flatMap (·.diagnostics) ++ (routes.drop k).map Diagnostic.cancelled ∧
      (∀ r, (Diagnostic.cancelled r).code = "cancelled" ∧ (Diagnostic.cancelled r).level = "info") ∧
      (∀ d ∈ outcomes.flatMap (·.diagnostics), d.code = "cancelled" →
        ∃ r ∈ routes.take k, ∃ o,
          (synthesizer.task r).Ends w.script.offers (.ok o) ∧ d ∈ o.diagnostics) ∧
      ((synthesizer = .template ∨ ∃ s, synthesizer = .generative s) →
        ∀ d ∈ outcomes.flatMap (·.diagnostics), d.code ≠ "cancelled") := by
  obtain ⟨begun, leftOut, outcomes, w', rfl, houtcomes, heq, hstarted, hhalted⟩ :=
    exists_outcomes pace synthesizer hsize hlasting routes w
  have hlength : begun.length = outcomes.length := houtcomes.length_eq
  have hown : ∀ d ∈ outcomes.flatMap (·.diagnostics), d.code = "cancelled" →
      ∃ r ∈ begun, ∃ o, (synthesizer.task r).Ends w.script.offers (.ok o) ∧ d ∈ o.diagnostics := by
    intro d hd hcode
    obtain ⟨o, ho, hdo⟩ := List.mem_flatMap.mp hd
    rw [← List.map_snd_zip hlength.ge] at ho
    obtain ⟨⟨r, o⟩, hzip, rfl⟩ := List.mem_map.mp ho
    obtain ⟨result, hends, rfl⟩ := List.forall₂_zip houtcomes hzip
    cases result with
    | ok o => exact ⟨r, (List.of_mem_zip hzip).1, o, hends, hdo⟩
    | error crash =>
      -- A crash is reported as such.
      obtain rfl := List.mem_singleton.mp hdo
      have hsame : "synthesizer-error" = "cancelled" := hcode
      exact absurd hsame (by decide)
  refine ⟨begun.length, by simp, outcomes, _, w', heq, hstarted, fun hlt => hhalted ?_, ?_, ?_, ?_,
    fun _ => ⟨rfl, rfl⟩, ?_, fun hknown d hd hcode => ?_⟩
  · rintro rfl
    simp at hlt
  · rwa [List.take_left]
  · rw [List.take_left, List.drop_left, BatchResult.ofOutcomes, List.map_append, List.map_map,
      List.zip, List.map_zipWith]
    rfl
  · rw [List.drop_left, diagnostics_ofOutcomes hlength.ge]
  · rwa [List.take_left]
  · obtain ⟨r, -, o, hends, hdo⟩ := hown d hd hcode
    exact code_ne_cancelled hknown hends hdo hcode

/-- The second of two analyses would begin when the run has just been stopped. -/
theorem startedSlots_eq_range_pair :
    1 ≤ ({} : Pace).batchSize ∧ Lasting (Stop.atTime (1 / 2)).holds ∧
    ∃ k ≤ 2, ∃ result w',
      synthesizeRoutes {} .template (Stop.atTime (1 / 2)).holds
        [{ method := "GET", path := "/a" }, { method := "GET", path := "/b" }] {} =
          .ok (result, w') ∧
      w'.startedSlots = List.range k ∧ k = 1 ∧
      result.diagnostics = [.cancelled { method := "GET", path := "/b" }] := by
  have hrun : (synthesizeRoutes {} .template (Stop.atTime (1 / 2)).holds
      [{ method := "GET", path := "/a" }, { method := "GET", path := "/b" }] {}).toOption.map
        (fun (result, w') => (w'.startedSlots, result.diagnostics)) =
      some ([0], [.cancelled { method := "GET", path := "/b" }]) := by
    decide +kernel
  obtain ⟨k, hk, -, result, w', heq, hstarted, -⟩ :=
    startedSlots_eq_range {} (by decide) .template (Stop.lasting (.atTime (1 / 2)))
      [{ method := "GET", path := "/a" }, { method := "GET", path := "/b" }] {}
  rw [heq] at hrun
  obtain ⟨hslots, hdiagnostics⟩ := Prod.mk.inj (Option.some.inj hrun)
  have hrange : List.range k = [0] := hstarted.symm.trans hslots
  have hone : k = 1 := by
    simpa using congrArg List.length hrange
  exact ⟨by decide, Stop.lasting _, k, hk, result, w', heq, hstarted, hone, hdiagnostics⟩

/-- A way to analyse routes that reports each of them as cancelled itself. -/
def Synthesizer.reporting : Synthesizer :=
  ⟨fun _ => 0, fun r =>
    .done (.ok { analysis := templateAnalysis r, diagnostics := [.cancelled r] })⟩

/-- A route is reported as cancelled though its analysis has begun: where the analysis
says so itself, and where the route is listed once more and then left out. -/
theorem cancelled_though_started :
    (synthesizeRoutes {} .reporting Stop.never.holds [{ method := "GET", path := "/a" }]
        {}).toOption.map (fun (result, w) => (w.startedSlots, result.diagnostics)) =
      some ([0], [.cancelled { method := "GET", path := "/a" }]) ∧
    (synthesizeRoutes {} (.generative {}) (Stop.afterRequests 1).holds
        [{ method := "GET", path := "/a" }, { method := "GET", path := "/a" }]
        { script := [("*", [{ answer := .text "{}" }])] }).toOption.map
          (fun (result, w) => (w.startedSlots, result.diagnostics)) =
      some ([0], [.cancelled { method := "GET", path := "/a" }]) := by
  decide +kernel

end RouteDoc.Service
