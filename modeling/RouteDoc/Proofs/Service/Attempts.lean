import RouteDoc.Proofs.Service.World

/-!
# The attempts for one route

Every attempt waits for an answer, and all but the last are followed by another
if nothing came of it.

* `ends_attempts`: attempts end with what an answer comes to, or with the template;
* `asks_attempts`: what the service is asked, and when;
* `fallback_of_ends`, `code_ne_cancelled`: the synthesizers report that the service
  gave nothing to use, and not that a route was left out.
-/

namespace RouteDoc.Service

/-- Attempts end with what an answer comes to, or without a use of any. -/
theorem ends_attempts {s : Effort} {r : Route} {offers : Route → List Reply}
    {left number : Nat} {reason : String} {result : Except Crash Outcome}
    (h : (attempts s r left number reason).Ends offers result) :
    (∃ reason, result = .ok (fallback r reason)) ∨ ∃ answer, judge r answer = .ok result := by
  induction left generalizing number reason with
  | zero => exact .inl ⟨reason, h⟩
  | succ left ih =>
    unfold attempts at h
    extract_lets again conclude at h
    have hagain : ∀ {reason}, (again reason).Ends offers result →
        (∃ reason, result = .ok (fallback r reason)) ∨ ∃ answer, judge r answer = .ok result := by
      intro reason h
      simp only [again] at h
      split at h
      · exact .inl ⟨reason, h⟩
      · exact ih h
    have hconclude : ∀ {reply}, (conclude reply).Ends offers result →
        (∃ reason, result = .ok (fallback r reason)) ∨ ∃ answer, judge r answer = .ok result := by
      intro reply h
      simp only [conclude] at h
      split at h
      · rename_i hjudge
        exact .inr ⟨reply.answer, hjudge.trans (congrArg Except.ok h.symm)⟩
      · exact hagain h
    split at h
    · obtain ⟨reply, -, h⟩ := h
      exact hconclude h
    · split at h
      · exact hagain h
      · obtain ⟨reply, -, h⟩ := h
        dsimp only at h
        split at h
        · exact hconclude h
        · exact hagain h

/-- An answer that can be used gives nothing to report. -/
theorem diagnostics_of_judge {r : Route} {answer : Answer} {o : Outcome}
    (h : judge r answer = .ok (.ok o)) : o.diagnostics = [] := by
  cases answer with
  | text s =>
    rw [judge] at h
    split at h <;> cases h
    rfl
  | failure message => cases h
  | crash message => cases h

/-- All that an analysis itself reports is that the service gave nothing to use. -/
theorem fallback_of_ends {synthesizer : Synthesizer}
    (hknown : synthesizer = .template ∨ ∃ s, synthesizer = .generative s)
    {offers : Route → List Reply} {r : Route} {o : Outcome}
    (h : (synthesizer.task r).Ends offers (.ok o)) {d : Diagnostic} (hd : d ∈ o.diagnostics) :
    ∃ reason, d = .serviceFallback r reason := by
  rcases hknown with rfl | ⟨s, rfl⟩
  · cases h
    cases hd
  · rcases ends_attempts h with ⟨reason, he⟩ | ⟨answer, he⟩
    · cases he
      exact ⟨reason, List.mem_singleton.mp hd⟩
    · rw [diagnostics_of_judge he] at hd
      cases hd

/-- No analysis reports that its route was left out. -/
theorem code_ne_cancelled {synthesizer : Synthesizer}
    (hknown : synthesizer = .template ∨ ∃ s, synthesizer = .generative s)
    {offers : Route → List Reply} {r : Route} {o : Outcome}
    (h : (synthesizer.task r).Ends offers (.ok o)) {d : Diagnostic} (hd : d ∈ o.diagnostics) :
    d.code ≠ "cancelled" := by
  obtain ⟨reason, rfl⟩ := fallback_of_ends hknown h hd
  change "generative-fallback" ≠ "cancelled"
  decide

/-- Whether attempts for the route `r` that begin at `now`, at most `left` of
them, may ask about `q` at `time`. -/
structure MayAsk (s : Effort) (r : Route) (left : Nat) (now time : Time) (q : Route) :
    Prop where
  about : q = r
  le : now ≤ time
  at_once : left ≤ 1 → time = now
  patient : ∀ limit, s.patience = some limit → 0 < limit

/-- Attempts ask about their route and not before they begin. A single one asks
at once, and none asks if no answer is waited for. -/
theorem asks_attempts (s : Effort) (r : Route) (left number : Nat) (reason : String)
    (now : Time) : (attempts s r left number reason).Asks (MayAsk s r left now) now := by
  induction left generalizing number reason now with
  | zero => trivial
  | succ left ih =>
    unfold attempts
    extract_lets again conclude
    have hagain : ∀ reason {time}, now ≤ time →
        (again reason).Asks (MayAsk s r (left + 1) now) time := by
      intro reason time htime
      simp only [again]
      split
      · trivial
      · rename_i hleft
        refine (ih (number + 1) reason _).mono fun time' q h =>
          ⟨h.about, ?_, fun hlast => absurd hlast (by omega), h.patient⟩
        exact htime.trans ((le_add_wait _ _).trans h.le)
    have hconclude : ∀ reply {time}, now ≤ time →
        (conclude reply).Asks (MayAsk s r (left + 1) now) time := by
      intro reply time htime
      simp only [conclude]
      split
      · trivial
      · exact hagain _ htime
    have hlater : ∀ seconds, now ≤ now + wait 0 + wait seconds := fun seconds =>
      (le_add_wait _ _).trans (le_add_wait _ _)
    split
    · rename_i hpatience
      refine ⟨⟨rfl, le_add_wait now 0, fun _ => add_wait_zero now, fun limit hlimit => ?_⟩,
        fun reply => hconclude reply (hlater _)⟩
      rw [hpatience] at hlimit
      cases hlimit
    · rename_i limit hpatience
      split
      · exact hagain _ (le_add_wait _ _)
      · rename_i hpos
        refine ⟨⟨rfl, le_add_wait now 0, fun _ => add_wait_zero now, fun limit' hlimit => ?_⟩,
          fun reply => ?_⟩
        · rw [hpatience] at hlimit
          exact Option.some.inj hlimit ▸ not_le.mp hpos
        · dsimp only
          split
          · exact hconclude reply (hlater _)
          · exact hagain _ (hlater _)

end RouteDoc.Service
