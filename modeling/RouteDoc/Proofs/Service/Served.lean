import RouteDoc.Proofs.Service.Begun

/-!
# Replies that came

What a run comes to depends on the script only through the replies that were
given to its requests. Where none of these was of use, every route has the
analysis that follows from its shape.

* `World.Served`, `World.given`: the replies given to the requests on record;
* `Task.EndsIn`: what a task comes to if the replies to come are all of a kind;
* `Schedule.Bears`, `exists_served_runBatches`: from single turns to whole runs,
  the results are as the replies that were given make them;
* `Reply.Fails`, `endsIn_attempts`: attempts of which none is of use;
* `results_of_fails`: runs that get no reply of use.
-/

namespace RouteDoc.Service

/-! ## Replies and requests -/

/-- The replies to requests about some routes, one after another, and the script
after them. -/
def Script.serve : Script → List Route → List Reply × Script
  | script, [] => ([], script)
  | script, r :: rs =>
    ((script.next r).1 :: (serve (script.next r).2 rs).1, (serve (script.next r).2 rs).2)

theorem Script.serve_append (script : Script) (rs rs' : List Route) :
    script.serve (rs ++ rs') =
      ((script.serve rs).1 ++ ((script.serve rs).2.serve rs').1,
        ((script.serve rs).2.serve rs').2) := by
  induction rs generalizing script with
  | nil => rfl
  | cons r rs ih =>
    rw [List.cons_append, serve, ih]
    rfl

namespace World

/-- The replies that a script gives to the requests on record. -/
def given (script : Script) (w : World) : List Reply := (script.serve (w.requests.map (·.2))).1

/-- The requests on record were given these replies by a script, and what is left
of it is still to come. -/
def Served (script : Script) (w : World) (replies : List Reply) : Prop :=
  script.serve (w.requests.map (·.2)) = (replies, w.script)

variable {script : Script} {w : World} {replies : List Reply}

theorem Served.given_eq (h : w.Served script replies) : w.given script = replies :=
  congrArg Prod.fst h

theorem requests_record_asked (w : World) (r : Route) :
    (w.record (.asked r)).requests = w.requests ++ [(w.now, r)] := by
  rw [requests, record, List.reverse_cons, List.filterMap_append]
  rfl

theorem requests_record {e : Event} (he : ∀ r, e ≠ .asked r) (w : World) :
    (w.record e).requests = w.requests := by
  rw [requests, record, List.reverse_cons, List.filterMap_append]
  cases e with
  | asked r => exact absurd rfl (he r)
  | opened => exact List.append_nil _
  | started slot => exact List.append_nil _
  | ended slot => exact List.append_nil _

theorem Served.record (h : w.Served script replies) {e : Event} (he : ∀ r, e ≠ .asked r) :
    (w.record e).Served script replies := by
  rw [Served, requests_record he]
  exact h

theorem Served.ask (h : w.Served script replies) (r : Route) :
    (w.ask r).2.Served script (replies ++ [(w.ask r).1]) := by
  have hrequests : (w.ask r).2.requests = w.requests ++ [(w.now, r)] := requests_record_asked w r
  rw [Served, hrequests, List.map_append, Script.serve_append, h]
  rfl

end World

/-- A script gives only replies that are on offer. -/
theorem Script.exists_offers_of_mem_serve {script : Script} {rs : List Route} {reply : Reply}
    (h : reply ∈ (script.serve rs).1) : ∃ r, reply ∈ script.offers r := by
  induction rs generalizing script with
  | nil => cases h
  | cons q rs ih =>
    rcases List.mem_cons.mp h with rfl | h
    · exact ⟨q, script.next_mem_offers q⟩
    · obtain ⟨r, hr⟩ := ih h
      exact ⟨r, script.offers_next q r hr⟩

/-! ## What tasks come to -/

/-- Whichever replies come, if all of them are as `Q` says then the task has a
result as `P` says. -/
def Task.EndsIn {α : Type} (Q : Reply → Prop) (P : α → Prop) : {n : Nat} → Task α n → Prop
  | _, .done result => P result
  | _, .sleep _ next _ => next.EndsIn Q P
  | _, .ask _ next _ => ∀ reply, Q reply → (next reply).EndsIn Q P

/-- The same from where a task stands after its turn. -/
def Rest.EndsIn {α : Type} (Q : Reply → Prop) (P : α → Prop) {n : Nat} : Rest α n → Prop
  | .ended result => P result
  | .asleep _ next _ => next.EndsIn Q P

section EndsIn

variable {α β : Type} {Q : Reply → Prop}

theorem Task.EndsIn.map {P : β → Prop} {f : α → β} {n : Nat} {t : Task α n}
    (h : t.EndsIn Q fun a => P (f a)) : (t.map f).EndsIn Q P := by
  induction t with
  | done result => exact h
  | sleep seconds next _ ih => exact ih h
  | ask r next _ ih => exact fun reply hreply => ih reply (h reply hreply)

theorem Task.EndsIn.imp {P P' : α → Prop} (hP : ∀ a, P a → P' a) {n : Nat} {t : Task α n}
    (h : t.EndsIn Q P) : t.EndsIn Q P' := by
  induction t with
  | done result => exact hP result h
  | sleep seconds next _ ih => exact ih h
  | ask r next _ ih => exact fun reply hreply => ih reply (h reply hreply)

theorem Rest.EndsIn.mono {P : α → Prop} {m n : Nat} {rest : Rest α m} (hrest : rest.EndsIn Q P)
    (h : m < n) : (rest.mono h).EndsIn Q P := by
  cases rest <;> exact hrest

variable {P : α → Prop} {script : Script} {replies : List Reply}

/-- The replies to the requests of a turn lead on. -/
theorem Task.exists_served_turn {n : Nat} (t : Task α n) {w : World} (h : w.Served script replies) :
    ∃ more, (t.turn w).2.Served script (replies ++ more) ∧
      ((∀ reply ∈ more, Q reply) → t.EndsIn Q P → (t.turn w).1.EndsIn Q P) := by
  induction t generalizing w replies with
  | done result => exact ⟨[], (List.append_nil replies).symm ▸ h, fun _ hends => hends⟩
  | sleep seconds next _ => exact ⟨[], (List.append_nil replies).symm ▸ h, fun _ hends => hends⟩
  | ask r next hlt ih =>
    obtain ⟨more, hserved, hmore⟩ := ih (w.ask r).1 (h.ask r)
    refine ⟨(w.ask r).1 :: more, ?_, fun hall hends => ?_⟩
    · rwa [List.append_assoc] at hserved
    · obtain ⟨hreply, hall⟩ := List.forall_mem_cons.mp hall
      rw [turn_ask]
      exact (hmore hall (hends _ hreply)).mono hlt

end EndsIn

/-! ## Schedules -/

/-- Whichever replies come, if all of them are as `Q` says then the result in
each slot is as `P` says. -/
structure Schedule.Bears {α : Type} (Q : Reply → Prop) (P : Nat → α → Prop) (s : Schedule α) :
    Prop where
  waiting : ∀ v ∈ s.waiting, P v.slot v.otherwise ∧ v.task.EndsIn Q (P v.slot)
  asleep : ∀ p ∈ s.queue, p.task.EndsIn Q (P p.slot)
  ended : ∀ d ∈ s.ends, P d.slot d.result

section Bears

variable {α : Type} {Q : Reply → Prop} {P : Nat → α → Prop} {s t : Schedule α}
  {script : Script} {replies : List Reply} {stopped : World → Bool}

theorem Schedule.Bears.settle (h : s.Bears Q P) (due : Time) {slot n : Nat}
    {turn : Rest α n × World} (hturn : turn.1.EndsIn Q (P slot)) :
    (s.settle due slot turn).Bears Q P where
  waiting := by
    rw [waiting_settle]
    exact h.waiting
  asleep p hp := by
    rcases (s.mem_queue_settle due slot turn).mp hp with hp | ⟨m, seconds, next, hm, hrest, rfl⟩
    · exact h.asleep p hp
    · rwa [hrest] at hturn
  ended d hd := by
    rcases (s.mem_ends_settle due slot turn).mp hd with hd | ⟨result, hrest, rfl⟩
    · exact h.ended d hd
    · rwa [hrest] at hturn

theorem served_settle {turn : Rest α n × World} (h : turn.2.Served script replies) (due : Time)
    (slot : Nat) : (s.settle due slot turn).world.Served script replies := by
  obtain ⟨_ | _, w⟩ := turn
  · exact h.record nofun
  · exact h

/-- The replies to the requests of a turn of a schedule. -/
theorem exists_served_step (h : s.world.Served script replies) (hstep : s.step stopped = some t) :
    ∃ more, t.world.Served script (replies ++ more) ∧
      ((∀ reply ∈ more, Q reply) → s.Bears Q P → t.Bears Q P) := by
  rcases Schedule.step_cases hstep with ⟨v, waiting, hv, -, rfl⟩ | ⟨p, queue, hp, -, rfl⟩
  · have hpop : s.Bears Q P → ({ s with waiting } : Schedule α).Bears Q P := fun hbears =>
      ⟨fun u hu => hbears.waiting u (hv ▸ List.mem_cons_of_mem v hu), hbears.asleep, hbears.ended⟩
    have hhead : s.Bears Q P → P v.slot v.otherwise ∧ v.task.EndsIn Q (P v.slot) := fun hbears =>
      hbears.waiting v (hv ▸ List.mem_cons_self)
    cases hs : stopped (s.world.setNow v.due) with
    | true =>
      -- A route that is left out asks nothing.
      rw [Schedule.start_of_stopped (s := { s with waiting }) hs]
      refine ⟨[], ?_, fun _ hbears => (hpop hbears).settle _ (hhead hbears).1⟩
      rw [List.append_nil]
      exact served_settle h _ _
    | false =>
      rw [Schedule.start_of_not_stopped (s := { s with waiting }) hs]
      obtain ⟨more, hserved, hmore⟩ := Task.exists_served_turn (Q := Q) (P := P v.slot) v.task
        (World.Served.record (w := s.world.setNow v.due) h (e := .started v.slot) nofun)
      exact ⟨more, served_settle hserved _ _, fun hall hbears =>
        (hpop hbears).settle _ (hmore hall (hhead hbears).2)⟩
  · obtain ⟨more, hserved, hmore⟩ := Task.exists_served_turn (Q := Q) (P := P p.slot) p.task
      (w := s.world.setNow p.due) h
    refine ⟨more, served_settle hserved _ _, fun hall hbears => ?_⟩
    have hpop : ({ s with queue } : Schedule α).Bears Q P :=
      ⟨hbears.waiting, fun q hq => hbears.asleep q (hp ▸ List.mem_cons_of_mem p hq), hbears.ended⟩
    exact hpop.settle _ (hmore hall (hbears.asleep p (hp ▸ List.mem_cons_self)))

/-- The replies to the requests of all turns of a schedule. -/
theorem exists_served_run (stopped : World → Bool) (h : s.world.Served script replies) :
    ∃ more, (s.run stopped).world.Served script (replies ++ more) ∧
      ((∀ reply ∈ more, Q reply) → s.Bears Q P → (s.run stopped).Bears Q P) := by
  refine Schedule.run_induction (P := fun t => ∃ more,
    t.world.Served script (replies ++ more) ∧
      ((∀ reply ∈ more, Q reply) → s.Bears Q P → t.Bears Q P)) ?_
    ⟨[], (List.append_nil replies).symm ▸ h, fun _ hbears => hbears⟩
  rintro t u ⟨more, hserved, hmore⟩ hstep
  obtain ⟨more', hserved', hmore'⟩ := exists_served_step (Q := Q) (P := P) hserved hstep
  refine ⟨more ++ more', List.append_assoc .. ▸ hserved', fun hall hbears => ?_⟩
  obtain ⟨hall, hall'⟩ := List.forall_mem_append.mp hall
  exact hmore' hall' (hmore hall hbears)

end Bears

/-! ## Runs -/

section Run

variable {pace : Pace} {synthesizer : Synthesizer} {stopped : World → Bool} {Q : Reply → Prop}
  {P : Nat → Outcome → Prop} {script : Script} {replies : List Reply}

/-- Before its first turn a batch bears what the analyses of its routes come to. -/
theorem bears_batchSchedule {batch : List (Nat × Route)}
    (hP : ∀ e ∈ batch, P e.1 (cancelled e.2) ∧
      (synthesizer.task e.2).EndsIn Q fun result => P e.1 (settled e.2 result)) (w : World) :
    (batchSchedule pace synthesizer batch w).Bears Q P := by
  refine ⟨fun v hv => ?_, nofun, nofun⟩
  obtain ⟨⟨place, e⟩, he, rfl⟩ := List.mem_map.mp hv
  have hmem : e ∈ batch := map_snd_numberedFrom 0 batch ▸ List.mem_map_of_mem (f := (·.2)) he
  exact ⟨(hP e hmem).1, (hP e hmem).2.map⟩

variable (pace synthesizer stopped) in
/-- The replies to the requests of all batches. -/
theorem exists_served_runBatches (bs : List (List (Nat × Route)))
    (hP : ∀ batch ∈ bs, ∀ e ∈ batch, P e.1 (cancelled e.2) ∧
      (synthesizer.task e.2).EndsIn Q fun result => P e.1 (settled e.2 result))
    {w : World} (h : w.Served script replies) :
    ∃ more, (runBatches pace synthesizer stopped bs w).2.Served script (replies ++ more) ∧
      ((∀ reply ∈ more, Q reply) →
        ∀ d ∈ (runBatches pace synthesizer stopped bs w).1, P d.slot d.result) := by
  induction bs generalizing w replies with
  | nil =>
    exact ⟨[], (List.append_nil replies).symm ▸ h, fun _ d hd => absurd hd List.not_mem_nil⟩
  | cons batch later ih =>
    rw [runBatches]
    split
    · exact ⟨[], (List.append_nil replies).symm ▸ h, fun _ d hd => absurd hd List.not_mem_nil⟩
    · obtain ⟨hbatch, hlater⟩ := List.forall_mem_cons.mp hP
      have hopened : (w.record .opened).Served script replies := h.record fun _ he => by cases he
      obtain ⟨more, hserved, hmore⟩ := exists_served_run (Q := Q) (P := P) stopped
        (s := batchSchedule pace synthesizer batch (w.record .opened)) hopened
      dsimp only
      generalize (batchSchedule pace synthesizer batch (w.record .opened)).run stopped = s
        at hserved hmore ⊢
      have hpause : (pauseBefore pace later s.world).Served script (replies ++ more) := by
        rw [pauseBefore]
        split <;> exact hserved
      obtain ⟨more', hserved', hmore'⟩ := ih hlater hpause
      refine ⟨more ++ more', List.append_assoc .. ▸ hserved', fun hall d hd => ?_⟩
      -- The replies of this batch count for its own results, the later ones for the rest.
      obtain ⟨hall, hall'⟩ := List.forall_mem_append.mp hall
      rcases List.mem_append.mp hd with hd | hd
      · exact (hmore hall (bears_batchSchedule hbatch _)).ended d hd
      · exact hmore' hall' d hd

end Run

/-! ## Replies that are of no use -/

/-- A reply that is of no use: it comes too late, or is a failure, a fault or a
text that cannot be read. -/
def Reply.Fails (s : Effort) (reply : Reply) : Prop :=
  (∃ limit, s.patience = some limit ∧ limit ≤ reply.delay) ∨
    ∀ text, reply.answer = .text text → ∃ fault, readReply text = .error fault

/-- An outcome that follows from the shape of a route. -/
def Outcome.IsTemplate (r : Route) (o : Outcome) : Prop :=
  o.analysis = templateAnalysis r ∧ o.strategy = .template

/-- A fault ends the attempts for a route, which then has its template. -/
theorem isTemplate_of_judge {r : Route} {answer : Answer} {result : Except Crash Outcome}
    (hfails : ∀ text, answer = .text text → ∃ fault, readReply text = .error fault)
    (h : judge r answer = .ok result) : (settled r result).IsTemplate r := by
  cases answer with
  | text s =>
    obtain ⟨fault, hfault⟩ := hfails s rfl
    rw [judge, hfault] at h
    cases h
  | failure message => cases h
  | crash message =>
    cases h
    exact ⟨rfl, rfl⟩

/-- Attempts of which none is of use end with the template. -/
theorem endsIn_attempts (s : Effort) (r : Route) (left number : Nat) (reason : String) :
    (attempts s r left number reason).EndsIn (·.Fails s) fun result =>
      (settled r result).IsTemplate r := by
  induction left generalizing number reason with
  | zero => exact ⟨rfl, rfl⟩
  | succ left ih =>
    unfold attempts
    extract_lets again conclude
    have hagain : ∀ reason, (again reason).EndsIn (·.Fails s) fun result =>
        (settled r result).IsTemplate r := by
      intro reason
      simp only [again]
      split
      · exact ⟨rfl, rfl⟩
      · exact ih _ _
    have hconclude : ∀ reply : Reply,
        (∀ text, reply.answer = .text text → ∃ fault, readReply text = .error fault) →
        (conclude reply).EndsIn (·.Fails s) fun result => (settled r result).IsTemplate r := by
      intro reply hfails
      simp only [conclude]
      split
      · rename_i hjudge
        exact isTemplate_of_judge hfails hjudge
      · exact hagain _
    -- A reply that is waited for has failed by what it says.
    split
    · rename_i hpatience
      refine fun reply hfails => hconclude reply (hfails.resolve_left ?_)
      rintro ⟨limit, hlimit, -⟩
      rw [hpatience] at hlimit
      cases hlimit
    · rename_i limit hpatience
      split
      · exact hagain _
      · intro reply hfails
        dsimp only
        split
        · rename_i hintime
          refine hconclude reply (hfails.resolve_left ?_)
          rintro ⟨limit', hlimit, hlate⟩
          obtain rfl : limit = limit' := Option.some.inj (hpatience.symm.trans hlimit)
          exact absurd hintime (not_lt.mpr hlate)
        · exact hagain _

/-- Where every result so far follows from the shape of the route in its slot, so
do all outcomes: routes without a result are as if cancelled. -/
theorem results_of_isTemplate {routes : List Route} {ends : List (Ended Outcome)}
    (h : ∀ d ∈ ends, ∃ r, routes[d.slot]? = some r ∧ d.result.IsTemplate r) :
    (BatchResult.ofOutcomes ((numberedFrom 0 routes).map fun e =>
      (e.2, outcomeAt ends e.1 e.2))).results = (templateResults routes).results := by
  have houtcome : ∀ e ∈ numberedFrom 0 routes, (outcomeAt ends e.1 e.2).IsTemplate e.2 := by
    intro e he
    rw [outcomeAt]
    split
    · rename_i d hd
      obtain ⟨r, hr, htemplate⟩ := h d (List.mem_of_find?_eq_some hd)
      have hslot : d.slot = e.1 := by simpa using List.find?_some hd
      have he : routes[e.1]? = some e.2 := (getElem?_of_mem_numberedFrom he).2
      obtain rfl : r = e.2 := Option.some.inj (hr.symm.trans (hslot ▸ he))
      exact htemplate
    · exact ⟨rfl, rfl⟩
  calc
    _ = (numberedFrom 0 routes).map (fun e => ⟨e.2, templateAnalysis e.2, .template⟩) := by
      rw [BatchResult.ofOutcomes, List.map_map]
      refine List.map_congr_left fun e he => ?_
      obtain ⟨hanalysis, hstrategy⟩ := houtcome e he
      exact congrArg₂ (DocumentedRoute.mk e.2) hanalysis hstrategy
    _ = ((numberedFrom 0 routes).map (·.2)).map fun r => ⟨r, templateAnalysis r, .template⟩ := by
      rw [List.map_map]
      rfl
    _ = (templateResults routes).results := by
      rw [map_snd_numberedFrom]
      rfl

/-- A run gives every route a result. If it gets no reply of use, or is stopped
from the start, these are the analyses that follow from the shapes of the routes. -/
theorem results_of_fails (s : Effort) (pace : Pace) (hsize : 1 ≤ pace.batchSize)
    (stopped : World → Bool) (routes : List Route) (script : Script) :
    ∃ batch w, synthesizeRoutes pace (.generative s) stopped routes { script } = .ok (batch, w) ∧
      batch.results.map (·.route) = routes ∧
      (stopped { script } = true ∨ (∀ reply ∈ w.given script, reply.Fails s) →
        batch.results = (templateResults routes).results) := by
  obtain ⟨bs, hbs, hflat⟩ := batches_of_pos hsize (numberedFrom 0 routes)
  have hbears : ∀ batch ∈ bs, ∀ e ∈ batch,
      (∃ r, routes[e.1]? = some r ∧ (cancelled e.2).IsTemplate r) ∧
        ((Synthesizer.generative s).task e.2).EndsIn (·.Fails s) fun result =>
          ∃ r, routes[e.1]? = some r ∧ (settled e.2 result).IsTemplate r := by
    intro batch hbatch e he
    have hmem : e ∈ numberedFrom 0 routes := hflat ▸ List.mem_flatten.mpr ⟨batch, hbatch, he⟩
    have hget : routes[e.1]? = some e.2 := (getElem?_of_mem_numberedFrom hmem).2
    exact ⟨⟨e.2, hget, rfl, rfl⟩,
      (endsIn_attempts s e.2 _ _ _).imp fun result hresult => ⟨e.2, hget, hresult⟩⟩
  have hstart : World.Served script { script } [] := rfl
  obtain ⟨replies, hserved, hends⟩ := exists_served_runBatches pace (.generative s) stopped
    (P := fun slot o => ∃ r, routes[slot]? = some r ∧ o.IsTemplate r) bs hbears hstart
  refine ⟨_, _, synthesizeRoutes_eq hbs _, ?_, ?_⟩
  · rw [BatchResult.ofOutcomes, List.map_map, List.map_map]
    exact map_snd_numberedFrom 0 routes
  rintro (hstopped | hfails)
  · -- No batch begins, so that there are no results at all.
    rw [runBatches_of_stopped hstopped]
    exact results_of_isTemplate fun d hd => absurd hd List.not_mem_nil
  · rw [hserved.given_eq] at hfails
    exact results_of_isTemplate (hends hfails)

end RouteDoc.Service
