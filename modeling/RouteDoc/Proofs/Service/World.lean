import Mathlib.Algebra.Order.Ring.Rat
import RouteDoc.Proofs.Entries
import RouteDoc.Service.Batch

/-!
# How worlds go on

A turn of a task moves no clock, puts requests on record and nothing else, and
takes replies from the script without adding any.

* `World.Leads`, `Lasting`: which worlds follow from which, and the conditions
  that are met for good; `Stop.lasting`: those on which a run is stopped are;
* `Task.events_turn`: what a turn puts on record;
* `Script.offers`, `Task.Ends`: the replies on offer, and the results that a task
  may come to with them; `Task.ends_of_turn`: a turn adds no results.
-/

namespace RouteDoc.Service

/-! ## Worlds that follow -/

/-- One world leads to another: no time is taken back, and what is on record
stays there. -/
structure World.Leads (w w' : World) : Prop where
  now_le : w.now ≤ w'.now
  events_suffix : w.events <:+ w'.events

/-- A condition that is met for good once it is met. -/
def Lasting (stopped : World → Bool) : Prop :=
  ∀ ⦃w w' : World⦄, w.Leads w' → stopped w = true → stopped w' = true

namespace World

variable {w w' w'' : World}

theorem Leads.refl (w : World) : w.Leads w := ⟨Rat.le_refl, List.suffix_refl _⟩

theorem Leads.trans (h : w.Leads w') (h' : w'.Leads w'') : w.Leads w'' :=
  ⟨Rat.le_trans h.now_le h'.now_le, h.events_suffix.trans h'.events_suffix⟩

theorem leads_record (w : World) (e : Event) : w.Leads (w.record e) :=
  ⟨Rat.le_refl, List.suffix_cons _ _⟩

end World

theorem wait_nonneg (seconds : Time) : 0 ≤ wait seconds := by
  rw [wait]
  split
  · exact Rat.le_refl
  · rename_i h
    exact Rat.not_lt.mp h

theorem le_add_wait (time seconds : Time) : time ≤ time + wait seconds :=
  le_add_of_nonneg_right (wait_nonneg seconds)

theorem add_wait_zero (time : Time) : time + wait 0 = time := Rat.add_zero time

theorem World.leads_sleep (w : World) (seconds : Time) : w.Leads (w.sleep seconds) :=
  ⟨le_add_wait _ _, List.suffix_refl _⟩

/-- As time passes and things happen, the service has been asked no less often. -/
theorem World.Leads.length_requests_le {w w' : World} (h : w.Leads w') :
    w.requests.length ≤ w'.requests.length := by
  obtain ⟨new, hnew⟩ := h.events_suffix
  rw [World.requests, World.requests, ← hnew, List.reverse_append, List.filterMap_append,
    List.length_append]
  exact Nat.le_add_right _ _

/-- Once a run is stopped it stays so. -/
theorem Stop.lasting (s : Stop) : Lasting s.holds := by
  intro w w' h hs
  cases s with
  | never => exact hs
  | fromStart => rfl
  | atTime time =>
    exact decide_eq_true (Rat.le_trans (of_decide_eq_true hs) h.now_le)
  | afterRequests n =>
    obtain ⟨hn, hle⟩ := (Bool.and_eq_true _ _).mp hs
    exact (Bool.and_eq_true _ _).mpr
      ⟨hn, decide_eq_true (Nat.le_trans (of_decide_eq_true hle) h.length_requests_le)⟩

/-- A lasting condition is one on the clock and on what has happened. -/
theorem Lasting.congr {stopped : World → Bool} (h : Lasting stopped) {w w' : World}
    (hnow : w.now = w'.now) (hevents : w.events = w'.events) : stopped w = stopped w' :=
  Bool.eq_iff_iff.mpr
    ⟨h ⟨hnow ▸ Rat.le_refl, hevents ▸ List.suffix_refl _⟩,
      h ⟨hnow ▸ Rat.le_refl, hevents ▸ List.suffix_refl _⟩⟩

/-! ## What is put on record -/

/-- The slot whose analysis an event begins. -/
def Event.startedSlot? : Event → Option Nat
  | .started slot => some slot
  | _ => none

/-- The slots whose analyses were begun, in order. -/
def World.startedSlots (w : World) : List Nat :=
  w.events.reverse.filterMap (·.2.startedSlot?)

theorem World.startedSlots_record (w : World) (e : Event) :
    (w.record e).startedSlots = w.startedSlots ++ e.startedSlot?.toList := by
  rw [startedSlots, record, List.reverse_cons, List.filterMap_append]
  cases h : e.startedSlot? <;> simp [startedSlots, h]

/-- Whatever a task asks, when it goes on at time `now`, is asked at a time and
about a route as `P` says. -/
def Task.Asks {α : Type} (P : Time → Route → Prop) (now : Time) : {n : Nat} → Task α n → Prop
  | _, .done _ => True
  | _, .sleep seconds next _ => next.Asks P (now + wait seconds)
  | _, .ask r next _ => P now r ∧ ∀ reply, (next reply).Asks P now

namespace Task

variable {α β : Type}

theorem Asks.map {P : Time → Route → Prop} (f : α → β) {now : Time} {n : Nat} {t : Task α n}
    (h : t.Asks P now) : (t.map f).Asks P now := by
  induction t generalizing now with
  | done result => trivial
  | sleep seconds next _ ih => exact ih h
  | ask r next _ ih => exact ⟨h.1, fun reply => ih reply (h.2 reply)⟩

theorem Asks.mono {P Q : Time → Route → Prop} (hPQ : ∀ time r, P time r → Q time r) {now : Time}
    {n : Nat} {t : Task α n} (h : t.Asks P now) : t.Asks Q now := by
  induction t generalizing now with
  | done result => trivial
  | sleep seconds next _ ih => exact ih h
  | ask r next _ ih => exact ⟨hPQ now r h.1, fun reply => ih reply (h.2 reply)⟩

theorem asks_true (now : Time) {n : Nat} (t : Task α n) : t.Asks (fun _ _ => True) now := by
  induction t generalizing now with
  | done result => trivial
  | sleep seconds next _ ih => exact ih _
  | ask r next _ ih => exact ⟨trivial, fun reply => ih reply now⟩

theorem turn_ask {m n : Nat} (r : Route) (next : Reply → Task α m) (h : m < n) (w : World) :
    (ask r next h).turn w = (((next (w.ask r).1).turn (w.ask r).2).1.mono h,
      ((next (w.ask r).1).turn (w.ask r).2).2) := rfl

theorem now_turn {n : Nat} (t : Task α n) (w : World) : (t.turn w).2.now = w.now := by
  induction t generalizing w with
  | done result => rfl
  | sleep seconds next _ => rfl
  | ask r next _ ih => exact ih _ (w.ask r).2

/-- A turn puts requests on record, and no more. -/
theorem events_turn {P : Time → Route → Prop} {n : Nat} {t : Task α n} {w : World}
    (h : t.Asks P w.now) :
    ∃ asked : List Route, (∀ r ∈ asked, P w.now r) ∧
      (t.turn w).2.events = asked.map (fun r => (w.now, .asked r)) ++ w.events := by
  induction t generalizing w with
  | done result => exact ⟨[], by simp, rfl⟩
  | sleep seconds next _ => exact ⟨[], by simp, rfl⟩
  | ask r next _ ih =>
    obtain ⟨asked, hP, he⟩ := ih (w.ask r).1 (w := (w.ask r).2) (h.2 _)
    refine ⟨asked ++ [r], fun q hq => ?_, ?_⟩
    · rcases List.mem_append.mp hq with hq | hq
      · exact hP q hq
      · exact List.mem_singleton.mp hq ▸ h.1
    · rw [List.map_append, List.append_assoc]
      exact he

theorem leads_turn {n : Nat} (t : Task α n) (w : World) : w.Leads (t.turn w).2 := by
  obtain ⟨asked, -, he⟩ := events_turn (asks_true w.now t)
  exact ⟨(now_turn t w).symm ▸ Rat.le_refl, he ▸ List.suffix_append _ _⟩

theorem startedSlots_turn {n : Nat} (t : Task α n) (w : World) :
    (t.turn w).2.startedSlots = w.startedSlots := by
  obtain ⟨asked, -, he⟩ := events_turn (asks_true w.now t)
  rw [World.startedSlots, he, List.reverse_append, List.filterMap_append, World.startedSlots]
  have hnone : ((asked.map fun r => (w.now, Event.asked r)).reverse).filterMap
      (fun e => e.2.startedSlot?) = [] := by
    simp [Event.startedSlot?]
  rw [hnone, List.append_nil]

/-- What a task that sleeps will ask is what it would have asked. -/
theorem asks_of_turn {P : Time → Route → Prop} {n : Nat} {t : Task α n} {w : World}
    (h : t.Asks P w.now) {m : Nat} {seconds : Time} {next : Task α m} {hm : m < n}
    (hturn : (t.turn w).1 = .asleep seconds next hm) : next.Asks P (w.now + wait seconds) := by
  induction t generalizing w m with
  | done result => cases hturn
  | sleep seconds next _ =>
    cases hturn
    exact h
  | ask r next' _ ih =>
    rw [turn_ask] at hturn
    cases hrest : ((next' (w.ask r).1).turn (w.ask r).2).1 with
    | ended result =>
      rw [hrest] at hturn
      cases hturn
    | asleep seconds' next'' h' =>
      rw [hrest] at hturn
      cases hturn
      exact ih (w.ask r).1 (w := (w.ask r).2) (h.2 _) hrest

end Task

/-! ## Replies on offer -/

/-- The replies that an entry of a script may give. -/
def Script.repliesOf : Option (List Reply) → List Reply
  | some (reply :: rest) => reply :: rest
  | _ => [{}]

/-- The replies that a script may give about a route. -/
def Script.offers (script : Script) (r : Route) : List Reply :=
  repliesOf (Entries.get? script (Script.key script r))

namespace Script

theorem next_mem_offers (script : Script) (r : Route) : (script.next r).1 ∈ script.offers r := by
  rw [offers, next]
  generalize Entries.get? script (key script r) = entry
  match entry with
  | some (reply :: later :: rest) => exact List.mem_cons_self
  | some [reply] => exact List.mem_cons_self
  | some [] => exact List.mem_cons_self
  | none => exact List.mem_cons_self

/-- Where all routes have one entry, it counts for each. -/
theorem key_star (replies : List Reply) (r : Route) : key [("*", replies)] r = "*" := by
  rw [key]
  split
  · rename_i hhas
    exact List.mem_singleton.mp (Entries.has_iff.mp hhas)
  · rfl

/-- An entry that is there can be changed without a change of any key. -/
theorem key_put {script : Script} {name : String} (h : Entries.has script name = true)
    (replies : List Reply) (r : Route) : key (Entries.put script name replies) r = key script r := by
  have hhas : Entries.has (Entries.put script name replies) r.label = Entries.has script r.label := by
    rw [Bool.eq_iff_iff, Entries.has_iff, Entries.has_iff, Entries.mem_keys_put]
    refine ⟨fun hm => ?_, .inr⟩
    rcases hm with he | hm
    · exact he ▸ Entries.has_iff.mp h
    · exact hm
  rw [key, key, hhas]

/-- A script is used up as it goes on, and offers nothing new. -/
theorem offers_next (script : Script) (q r : Route) :
    (script.next q).2.offers r ⊆ script.offers r := by
  rw [next]
  split
  · rename_i reply later rest h
    have hhas : Entries.has script (key script q) = true := by
      rw [Entries.has_iff]
      by_contra hn
      rw [Entries.get?_eq_none_iff.mpr hn] at h
      cases h
    rw [offers, offers, key_put hhas, Entries.get?_put]
    split
    · rename_i he
      rw [← he, h]
      exact List.subset_cons_self _ _
    · exact List.Subset.refl _
  all_goals exact List.Subset.refl _

end Script

/-- A result that a task may come to when the service gives replies on offer. -/
def Task.Ends {α : Type} (offers : Route → List Reply) : {n : Nat} → Task α n → α → Prop
  | _, .done result, a => a = result
  | _, .sleep _ next _, a => next.Ends offers a
  | _, .ask r next _, a => ∃ reply ∈ offers r, (next reply).Ends offers a

/-- A result that a task may come to from where it stands. -/
def Rest.Ends {α : Type} (offers : Route → List Reply) {n : Nat} : Rest α n → α → Prop
  | .ended result, a => a = result
  | .asleep _ next _, a => next.Ends offers a

namespace Task

variable {α β : Type} {offers : Route → List Reply}

theorem ends_map {f : α → β} {n : Nat} {t : Task α n} {b : β} :
    (t.map f).Ends offers b ↔ ∃ a, t.Ends offers a ∧ b = f a := by
  induction t with
  | done result => exact ⟨fun h => ⟨result, rfl, h⟩, fun ⟨a, ha, hb⟩ => ha ▸ hb⟩
  | sleep seconds next _ ih => exact ih
  | ask r next _ ih =>
    constructor
    · rintro ⟨reply, hreply, h⟩
      obtain ⟨a, ha, hb⟩ := (ih reply).mp h
      exact ⟨a, ⟨reply, hreply, ha⟩, hb⟩
    · rintro ⟨a, ⟨reply, hreply, ha⟩, hb⟩
      exact ⟨reply, hreply, (ih reply).mpr ⟨a, ha, hb⟩⟩

theorem offers_turn {n : Nat} (t : Task α n) (w : World) (r : Route) :
    (t.turn w).2.script.offers r ⊆ w.script.offers r := by
  induction t generalizing w with
  | done result => exact List.Subset.refl _
  | sleep seconds next _ => exact List.Subset.refl _
  | ask q next _ ih => exact List.Subset.trans (ih _ (w.ask q).2) (Script.offers_next w.script q r)

/-- What a task may come to after a turn, it might have come to before. -/
theorem ends_of_turn {n : Nat} {t : Task α n} {w : World}
    (hoffers : ∀ r, w.script.offers r ⊆ offers r) {a : α} (h : (t.turn w).1.Ends offers a) :
    t.Ends offers a := by
  induction t generalizing w with
  | done result => exact h
  | sleep seconds next _ => exact h
  | ask r next _ ih =>
    refine ⟨(w.ask r).1, hoffers r (Script.next_mem_offers w.script r), ih _ ?_ (w := (w.ask r).2) ?_⟩
    · exact fun q => List.Subset.trans (Script.offers_next w.script r q) (hoffers q)
    · rw [turn_ask] at h
      cases hrest : ((next (w.ask r).1).turn (w.ask r).2).1 <;> rw [hrest] at h <;> exact h

end Task

end RouteDoc.Service
