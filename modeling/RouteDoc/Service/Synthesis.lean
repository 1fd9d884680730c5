import RouteDoc.Analysis.Merge
import RouteDoc.Analysis.Template
import RouteDoc.Diagnostic
import RouteDoc.Service.Repair
import RouteDoc.Service.Task
import RouteDoc.Settings

/-!
# Analyses of single routes

* `Outcome`: an analysis, where it came from and what is reported;
* `Effort`: how the service is asked about a route;
* `Synthesizer`: a way to analyse routes;
* `Synthesizer.template`: from the shape of the route alone;
* `Synthesizer.generative`: by asking the service, several times if need be.
-/

namespace RouteDoc.Service

/-- An analysis, where it came from and what is reported about it. -/
structure Outcome where
  analysis : Analysis
  strategy : Strategy := .template
  diagnostics : List Diagnostic := []
  deriving Inhabited

/-- A fault that ended an analysis. -/
structure Crash where
  message : String
  deriving DecidableEq, Repr

/-- A way to analyse routes: a task for each, and a bound for that. -/
structure Synthesizer where
  steps : Route → Nat
  task : (r : Route) → Task (Except Crash Outcome) (steps r)

namespace Synthesizer

/-- Analyses that follow from the shape of the route. -/
def template : Synthesizer :=
  ⟨fun _ => 0, fun r => .done (.ok { analysis := templateAnalysis r })⟩

end Synthesizer

/-- The outcome when the service gave nothing to use. -/
def fallback (r : Route) (reason : String) : Outcome :=
  { analysis := templateAnalysis r, diagnostics := [.serviceFallback r reason] }

/-- What an answer about a route comes to, or why the service is asked again. -/
def judge (r : Route) : Answer → Except String (Except Crash Outcome)
  | .text s =>
    match readReply s with
    | .ok fields =>
      .ok (.ok { analysis := mergeAnalysis fields (templateAnalysis r) r.method
                 strategy := .generative })
    | .error fault => .error fault.message
  | .failure message => .error message
  | .crash message => .ok (.error ⟨message⟩)

/-- How the service is asked about a route: how often at most, how long an answer
is waited for, and the pause after the first attempt. Without patience an answer
is waited for as long as it takes. -/
structure Effort where
  maxAttempts : Int := 3
  patience : Option Time := some 30
  backoff : Time := 1
  deriving DecidableEq, Repr, Inhabited

/-- The effort that settings ask for. A pause without end, or one that is no
number, is none in virtual time. -/
def Effort.ofSettings (s : ServiceSettings) : Effort where
  maxAttempts := s.maxAttempts
  patience := if s.timeout = .infinite false then none else some s.timeout.toRat
  backoff := s.backoff.toRat

/-- The pause after an attempt, given its number. -/
def pauseAfter (e : Effort) (number : Nat) : Time := e.backoff * number

/-- The attempts that are left for a route, the first of them with `number`.
Each waits for the answer, or as long as there is patience, and is followed by a
pause unless it is the last. -/
def attempts (e : Effort) (r : Route) :
    (left : Nat) → (number : Nat) → (reason : String) → Task (Except Crash Outcome) (4 * left)
  | 0, _, reason => .done (.ok (fallback r reason))
  | left + 1, number, _ =>
    let again (reason : String) : Task (Except Crash Outcome) (4 * left + 1) :=
      if left = 0 then .done (.ok (fallback r reason))
      else .sleep (pauseAfter e number) (attempts e r left (number + 1) reason) (by omega)
    let conclude (reply : Reply) : Task (Except Crash Outcome) (4 * left + 1) :=
      match judge r reply.answer with
      | .ok result => .done result
      | .error reason => again reason
    match e.patience with
    | none =>
      .sleep 0 (.ask r (fun reply => .sleep reply.delay (conclude reply) (Nat.lt_succ_self _))
        (Nat.lt_succ_self _)) (by omega)
    | some limit =>
      if limit ≤ 0 then .sleep 0 (again "") (by omega)
      else
        .sleep 0 (.ask r
          (fun reply =>
            if reply.delay < limit then .sleep reply.delay (conclude reply) (Nat.lt_succ_self _)
            else .sleep limit (again "") (Nat.lt_succ_self _))
          (Nat.lt_succ_self _)) (by omega)

/-- Analyses by the service. -/
def Synthesizer.generative (e : Effort) : Synthesizer :=
  ⟨fun _ => 4 * e.maxAttempts.toNat, fun r => attempts e r e.maxAttempts.toNat 1 ""⟩

end RouteDoc.Service
