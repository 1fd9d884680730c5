import RouteDoc.Proofs.Service.Isolated
import RouteDoc.Proofs.Service.Served

/-!
# When the service is asked again

An analysis by the service asks, waits for the reply, and asks again some time
after an attempt that failed, until one does not or all are made.

* `Attempt`, `attempt`: what an attempt comes to with its reply;
* `Script.replies`, `askedAt`: the reply to each attempt, and when it asks if all
  before it failed;
* `finish_attempts_succ`: one attempt; `exists_concludes`: all of them;
* `run_generative`: the analysis of a route by itself, from its first request on.
-/

namespace RouteDoc.Service

/-! ## One attempt -/

/-- What an attempt comes to: an object, a failure after which the service may be
asked again, or a fault that ends the analysis. -/
inductive Attempt
  | answered (fields : Fields)
  | failed (reason : String)
  | crashed (message : String)

/-- What an attempt comes to with its reply. A reply that takes too long counts
for nothing, whatever it says. -/
def attempt (s : Effort) (reply : Reply) : Attempt :=
  if (s.patience).any (· ≤ reply.delay) then .failed ""
  else
    match reply.answer with
    | .text text =>
      match readReply text with
      | .ok fields => .answered fields
      | .error fault => .failed fault.message
    | .failure message => .failed message
    | .crash message => .crashed message

/-- How long an attempt waits for its reply. -/
def held (s : Effort) (reply : Reply) : Time :=
  match s.patience with
  | none => wait reply.delay
  | some limit => wait (min reply.delay limit)

/-- A reply in time is waited for. -/
theorem held_of_lt {s : Effort} {reply : Reply}
    (h : ∀ limit, s.patience = some limit → reply.delay < limit) :
    held s reply = wait reply.delay := by
  rw [held]
  split
  · rfl
  · rename_i limit hlimit
    rw [min_eq_left (h limit hlimit).le]

/-- A reply that takes too long is waited for no longer than there is patience. -/
theorem held_of_late {s : Effort} {reply : Reply} {limit : Time}
    (hlimit : s.patience = some limit) (h : limit ≤ reply.delay) : held s reply = wait limit := by
  rw [held, hlimit]
  exact congrArg wait (min_eq_right h)

/-- What the analysis of a route comes to with its last attempt. -/
def Attempt.result (r : Route) : Attempt → Except Crash Outcome
  | answered fields => .ok ⟨mergeAnalysis fields (templateAnalysis r) r.method, .generative, []⟩
  | failed reason => .ok ⟨templateAnalysis r, .template, [.serviceFallback r reason]⟩
  | crashed message => .error ⟨message⟩

/-- The world after an attempt for a route. -/
def World.attempted (s : Effort) (r : Route) (w : World) : World :=
  { (w.ask r).2 with now := w.now + held s (w.script.next r).1 }

/-- An attempt that failed in such a way that the service may be asked again. -/
def Attempt.IsFailure (a : Attempt) : Prop := ∃ reason, a = .failed reason

theorem attempt_of_late {s : Effort} {reply : Reply} {limit : Time}
    (hlimit : s.patience = some limit) (h : limit ≤ reply.delay) :
    attempt s reply = .failed "" := by
  rw [attempt, hlimit]
  exact if_pos (decide_eq_true h)

/-- A reply in time counts for what it says. -/
theorem judge_eq {s : Effort} {r : Route} {reply : Reply}
    (h : ∀ limit, s.patience = some limit → reply.delay < limit) :
    judge r reply.answer =
      match attempt s reply with
      | .failed reason => .error reason
      | other => .ok (other.result r) := by
  have hintime : (s.patience).any (· ≤ reply.delay) = false := by
    cases hpatience : s.patience with
    | none => rfl
    | some limit => exact decide_eq_false (not_le.mpr (h limit hpatience))
  rw [attempt, hintime, if_neg Bool.false_ne_true]
  cases reply.answer with
  | text text =>
    simp only [judge]
    cases readReply text <;> rfl
  | failure message => rfl
  | crash message => rfl

/-- An attempt that failed is followed by a pause and the next one, if there is
one; any other ends the analysis. -/
theorem finish_attempts_succ {s : Effort}
    (hpatience : ∀ limit, s.patience = some limit → 0 < limit) (r : Route) (left number : Nat)
    (reason : String) (w : World) :
    (attempts s r (left + 1) number reason).finish w =
      match attempt s (w.script.next r).1 with
      | .failed reason =>
        if left = 0 then ((Attempt.failed reason).result r, w.attempted s r)
        else (attempts s r left (number + 1) reason).finish
          ((w.attempted s r).sleep (pauseAfter s number))
      | other => (other.result r, w.attempted s r) := by
  have hask : (w.sleep 0).ask r = w.ask r := by
    rw [World.sleep, add_wait_zero]
  have hreply : (w.ask r).1 = (w.script.next r).1 := rfl
  conv_lhs => unfold attempts
  extract_lets again conclude
  have hagain : ∀ reason w, (again reason).finish w =
      if left = 0 then ((Attempt.failed reason).result r, w)
      else (attempts s r left (number + 1) reason).finish (w.sleep (pauseAfter s number)) := by
    intro reason w
    simp only [again]
    split <;> rfl
  have hconclude : ∀ reply w, (∀ limit, s.patience = some limit → reply.delay < limit) →
      (conclude reply).finish w =
        match attempt s reply with
        | .failed reason => (again reason).finish w
        | other => (other.result r, w) := by
    intro reply w hintime
    simp only [conclude, judge_eq hintime]
    cases attempt s reply <;> rfl
  simp only [← hagain]
  have hattempted : ∀ {seconds}, held s (w.script.next r).1 = wait seconds →
      (w.ask r).2.sleep seconds = w.attempted s r := by
    intro seconds hheld
    rw [World.attempted, hheld]
    rfl
  generalize (w.script.next r).1 = reply at *
  split
  · rename_i hnone
    have hintime : ∀ limit, s.patience = some limit → reply.delay < limit := by simp [hnone]
    simp only [Task.finish, hask, hreply, hattempted (held_of_lt hintime)]
    exact hconclude _ _ hintime
  · rename_i limit hlimit
    rw [if_neg (not_le.mpr (hpatience limit hlimit))]
    simp only [Task.finish, hask, hreply]
    split
    · rename_i hlt
      have hintime : ∀ limit, s.patience = some limit → reply.delay < limit := by
        simp [hlimit, hlt]
      rw [Task.finish, hconclude _ _ hintime, hattempted (held_of_lt hintime)]
    · rename_i hle
      have hlate := not_lt.mp hle
      rw [Task.finish, attempt_of_late hlimit hlate, hattempted (held_of_late hlimit hlate)]

/-! ## All attempts -/

/-- The replies to requests about one route, one after another. -/
def Script.replies (script : Script) (r : Route) : Nat → Reply
  | 0 => (script.next r).1
  | j + 1 => replies (script.next r).2 r j

/-- A script with one list of replies gives these, to whichever route. -/
theorem replies_star (r : Route) {given : List Reply} {j : Nat} (h : j < given.length) :
    Script.replies [("*", given)] r j = given[j] := by
  induction j generalizing given with
  | zero =>
    rw [Script.replies, Script.next, Script.key_star]
    rcases given with - | ⟨reply, - | ⟨later, rest⟩⟩
    · cases h
    · rfl
    · rfl
  | succ j ih =>
    obtain ⟨reply, later, rest, rfl⟩ : ∃ reply later rest, given = reply :: later :: rest := by
      rcases given with - | ⟨reply, - | ⟨later, rest⟩⟩
      · cases h
      · cases Nat.lt_of_succ_lt_succ h
      · exact ⟨reply, later, rest, rfl⟩
    have hnext : Script.next [("*", reply :: later :: rest)] r =
        (reply, [("*", later :: rest)]) := by
      rw [Script.next, Script.key_star]
      rfl
    rw [Script.replies, hnext, ih (Nat.lt_of_succ_lt_succ h)]
    rfl

/-- When each of some attempts asks, from the first, if all before it failed. The
pauses between them grow. -/
def askedAt (s : Effort) (replies : Nat → Reply) (start : Time) : Nat → Time
  | 0 => start
  | j + 1 => askedAt s replies start j + held s (replies j) + s.backoff * (j + 1 : Nat)

theorem requests_attempted (s : Effort) (r : Route) (w : World) :
    (w.attempted s r).requests = w.requests ++ [(w.now, r)] := w.requests_record_asked r

theorem wait_pauseAfter {s : Effort} (h : 0 ≤ s.backoff) (number : Nat) :
    wait (pauseAfter s number) = s.backoff * number :=
  if_neg (not_lt.mpr (mul_nonneg h number.cast_nonneg))

/-- An attempt ends the analysis unless it failed and another is left. -/
theorem finish_attempts_last {s : Effort}
    (hpatience : ∀ limit, s.patience = some limit → 0 < limit) (r : Route) {left : Nat}
    (number : Nat) (reason : String) {w : World}
    (hlast : (attempt s (w.script.next r).1).IsFailure → left = 0) :
    (attempts s r (left + 1) number reason).finish w =
      ((attempt s (w.script.next r).1).result r, w.attempted s r) := by
  rw [finish_attempts_succ hpatience]
  split
  · rename_i message hfailed
    rw [if_pos (hlast ⟨message, hfailed⟩), hfailed]
  · rfl

/-- What the attempts for a route from number `first` on, which began in the
world `w`, come to with number `last`, where no more than `count` are made. -/
structure Concludes (s : Effort) (r : Route) (replies : Nat → Reply) (start : Time)
    (first last count : Nat) (w : World) (conclusion : Except Crash Outcome × World) : Prop where
  le : first ≤ last
  lt : last < count
  result : conclusion.1 = (attempt s (replies last)).result r
  now : conclusion.2.now = askedAt s replies start last + held s (replies last)
  requests : conclusion.2.requests = w.requests ++
    (List.range' first (last + 1 - first)).map fun j => (askedAt s replies start j, r)
  failures : ∀ j, first ≤ j → j < last → (attempt s (replies j)).IsFailure
  exhausted : (attempt s (replies last)).IsFailure → last + 1 = count

section Attempts

variable {s : Effort} {r : Route} {replies : Nat → Reply} {start : Time} {i : Nat}
  {w : World}

/-- Nothing follows an attempt that did not fail, or the last one. -/
theorem concludes_last (hpatience : ∀ limit, s.patience = some limit → 0 < limit) {left : Nat}
    (reason : String) (hreply : (w.script.next r).1 = replies i)
    (hnow : w.now = askedAt s replies start i)
    (hlast : (attempt s (replies i)).IsFailure → left = 0) :
    Concludes s r replies start i i (i + left + 1) w
      ((attempts s r (left + 1) (i + 1) reason).finish w) := by
  rw [finish_attempts_last hpatience r _ _ (hreply ▸ hlast), hreply]
  refine ⟨le_refl i, by omega, rfl, ?_, ?_, fun j hj hji => absurd hji (not_lt.mpr hj),
    fun hfailure => by rw [hlast hfailure]⟩
  · rw [World.attempted, hreply, hnow]
  · rw [requests_attempted, hnow, Nat.add_sub_cancel_left]
    rfl

/-- Attempts end with the first that did not fail, or else with the last. -/
theorem exists_concludes (hpatience : ∀ limit, s.patience = some limit → 0 < limit)
    (hbackoff : 0 ≤ s.backoff) (left : Nat) (reason : String)
    (hreplies : ∀ j, w.script.replies r j = replies (i + j))
    (hnow : w.now = askedAt s replies start i) :
    ∃ last, Concludes s r replies start i last (i + left + 1) w
      ((attempts s r (left + 1) (i + 1) reason).finish w) := by
  induction left generalizing i reason w with
  | zero => exact ⟨i, concludes_last hpatience reason (hreplies 0) hnow fun _ => rfl⟩
  | succ left ih =>
    have hreply : (w.script.next r).1 = replies i := hreplies 0
    by_cases hfailure : (attempt s (replies i)).IsFailure
    · obtain ⟨message, hfailed⟩ := hfailure
      have hattempts : (attempts s r (left + 1 + 1) (i + 1) reason).finish w =
          (attempts s r (left + 1) (i + 1 + 1) message).finish
            ((w.attempted s r).sleep (pauseAfter s (i + 1))) := by
        rw [finish_attempts_succ hpatience, hreply, hfailed]
        exact if_neg (Nat.succ_ne_zero left)
      have hlater : ∀ j, ((w.attempted s r).sleep (pauseAfter s (i + 1))).script.replies r j =
          replies (i + 1 + j) := by
        intro j
        rw [Nat.add_right_comm, Nat.add_assoc]
        exact hreplies (j + 1)
      have hpaused : ((w.attempted s r).sleep (pauseAfter s (i + 1))).now =
          askedAt s replies start (i + 1) := by
        rw [World.sleep, World.attempted, wait_pauseAfter hbackoff, hreply, hnow]
        rfl
      obtain ⟨last, h⟩ := ih message hlater hpaused
      refine ⟨last, (Nat.le_succ i).trans h.le, h.lt.trans_eq (by omega), ?_, ?_, ?_, ?_,
        fun hlast => (h.exhausted hlast).trans (by omega)⟩
      · rw [hattempts, h.result]
      · rw [hattempts, h.now]
      · have hle : i < last := h.le
        have hrange : List.range' i (last + 1 - i) =
            i :: List.range' (i + 1) (last + 1 - (i + 1)) := by
          rw [← List.range'_succ]
          exact congrArg (List.range' i) (by omega)
        rw [hattempts, h.requests, hrange]
        change (w.attempted s r).requests ++ _ = _
        rw [requests_attempted, hnow, List.append_assoc]
        rfl
      · intro j hj hjlast
        rcases Nat.eq_or_lt_of_le hj with rfl | hj
        · exact ⟨message, hfailed⟩
        · exact h.failures j hj hjlast
    · exact ⟨i, concludes_last hpatience reason hreply hnow (absurd · hfailure)⟩

end Attempts

/-- The analysis of a route by itself asks again after each attempt that failed,
as long as attempts are left: each time as soon as the attempt is over and a pause
has passed, which grows by the same time with each attempt. It is over with the
first attempt that did not fail, and at that time, or else with the last. An
answer then makes the outcome, a fault ends the analysis, and where all attempts
failed the outcome is the template, with one diagnostic that says why the last
did. The replies may be any: a script can give every list of them. -/
theorem run_generative {s : Effort} (hattempts : 1 ≤ s.maxAttempts)
    (hpatience : ∀ limit, s.patience = some limit → 0 < limit) (hbackoff : 0 ≤ s.backoff)
    (stopped : World → Bool) (slot : Nat) (r : Route) (w : World) :
    let replies := w.script.replies r
    let asked := askedAt s replies w.now
    (∃ (last : Nat) (w' : World), last + 1 ≤ s.maxAttempts ∧
      run stopped [⟨w.now, slot, (Synthesizer.generative s).task r⟩] w =
        ([⟨slot, (attempt s (replies last)).result r, asked last + held s (replies last)⟩], w') ∧
      w'.now = asked last + held s (replies last) ∧
      w'.requests = w.requests ++ (List.range (last + 1)).map (fun j => (asked j, r)) ∧
      (∀ j < last, (attempt s (replies j)).IsFailure) ∧
      ((attempt s (replies last)).IsFailure → last + 1 = s.maxAttempts)) ∧
    (∀ reason, (Diagnostic.serviceFallback r reason).code = "generative-fallback" ∧
      (Diagnostic.serviceFallback r reason).message = r.label ++ ": " ++ reason) ∧
    ∀ (given : List Reply) (j : Nat) (h : j < given.length),
      Script.replies [("*", given)] r j = given[j] := by
  intro replies asked
  refine ⟨?_, fun reason => ⟨rfl, rfl⟩, fun given j => replies_star r⟩
  obtain ⟨left, hleft⟩ : ∃ left, s.maxAttempts.toNat = left + 1 :=
    ⟨s.maxAttempts.toNat - 1, by omega⟩
  have hreplies : ∀ j, w.script.replies r j = replies (0 + j) := fun j =>
    congrArg replies (Nat.zero_add j).symm
  have hnow : w.now = asked 0 := rfl
  obtain ⟨last, h⟩ := exists_concludes hpatience hbackoff left "" hreplies hnow
  have hlt := h.lt
  have htask : ((Synthesizer.generative s).task r).finish w =
      (attempts s r (left + 1) 1 "").finish w := by
    rw [← hleft]
    rfl
  refine ⟨last, ((attempts s r (left + 1) 1 "").finish w).2.record (.ended slot), by omega, ?_,
    h.now, ?_, fun j => h.failures j (Nat.zero_le j), fun hfailure => ?_⟩
  · rw [run_singleton, World.setNow, htask, h.result, h.now]
  · rw [World.requests_record (by simp), h.requests, List.range_eq_range']
    rfl
  · have hcount := h.exhausted hfailure
    omega

/-- An object with no fields is read. -/
theorem readReply_noFields : readReply "\x7b\x7d" = .ok [] := by
  have hblank : Text.isBlankText "\x7b\x7d" = false := by decide +kernel
  have hisolate : isolate "\x7b\x7d".toList = ['{', '}'] := by decide +kernel
  rw [readReply, hblank, if_neg Bool.false_ne_true]
  simp only [hisolate]
  rfl

/-- A route. -/
def oneRoute : Route := { method := "GET", path := "/a" }

/-- Replies of which the first takes too long, the second is a failure and the
third an answer. -/
def lateThenDown : List Reply :=
  [⟨31, .text "\x7b\x7d"⟩, ⟨1, .failure "down"⟩, ⟨2, .text "\x7b\x7d"⟩]

/-- The service is asked three times for its answer. -/
theorem run_generative_third :
    1 ≤ ({} : Effort).maxAttempts ∧
    (∀ limit, ({} : Effort).patience = some limit → 0 < limit) ∧ 0 ≤ ({} : Effort).backoff ∧
    ∃ w', run (fun _ => false) [⟨0, 0, (Synthesizer.generative {}).task oneRoute⟩]
        { script := [("*", lateThenDown)] } =
      ([⟨0, .ok ⟨mergeAnalysis [] (templateAnalysis oneRoute) "GET", .generative, []⟩, 36⟩], w') ∧
      w'.now = 36 ∧ w'.requests = [(0, oneRoute), (31, oneRoute), (34, oneRoute)] := by
  have hattempts : 1 ≤ ({} : Effort).maxAttempts := by decide
  have hpatience : ∀ limit, ({} : Effort).patience = some limit → 0 < limit := by
    intro limit hlimit
    cases hlimit
    decide +kernel
  have hbackoff : 0 ≤ ({} : Effort).backoff := by decide +kernel
  refine ⟨hattempts, hpatience, hbackoff, ?_⟩
  obtain ⟨⟨last, w', hlast, hrun, hnow, hrequests, hfailures, hexhausted⟩, -⟩ :=
    run_generative hattempts hpatience hbackoff (fun _ => false) 0 oneRoute
      { script := [("*", lateThenDown)] }
  have hfirst : attempt {} ⟨31, .text "\x7b\x7d"⟩ = .failed "" :=
    attempt_of_late rfl (by decide +kernel)
  have hsecond : attempt {} ⟨1, .failure "down"⟩ = .failed "down" := if_neg (by decide +kernel)
  have hthird : attempt {} ⟨2, .text "\x7b\x7d"⟩ = .answered [] := by
    rw [attempt, if_neg (by decide +kernel)]
    simp only [readReply_noFields]
  obtain rfl : last = 2 := by
    match last with
    | 0 => cases hexhausted ⟨_, hfirst⟩
    | 1 => cases hexhausted ⟨_, hsecond⟩
    | 2 => rfl
    | n + 3 =>
      have hmax : ({} : Effort).maxAttempts = 3 := rfl
      omega
  have hend : askedAt {} (Script.replies [("*", lateThenDown)] oneRoute) 0 2 +
      held {} (Script.replies [("*", lateThenDown)] oneRoute 2) = 36 := by
    decide +kernel
  have hasked : ([] : List (Time × Route)) ++ (List.range 3).map (fun j =>
      (askedAt {} (Script.replies [("*", lateThenDown)] oneRoute) 0 j, oneRoute)) =
      [(0, oneRoute), (31, oneRoute), (34, oneRoute)] := by
    decide +kernel
  refine ⟨w', hrun.trans ?_, hnow.trans hend, hrequests.trans hasked⟩
  exact congrArg₂ (fun result time => ([Ended.mk 0 result time], w'))
    (congrArg (Attempt.result oneRoute) hthird) hend

end RouteDoc.Service
