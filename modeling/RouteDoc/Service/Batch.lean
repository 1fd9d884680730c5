import RouteDoc.Service.Schedule
import RouteDoc.Service.Synthesis

/-!
# Analyses of many routes

Routes are analysed in batches. Within a batch the analyses begin one after
another at intervals and go on side by side; the next batch begins some time
after all of them have ended. Once the run is stopped nothing more begins.

* `Pace`: the size of batches and the intervals;
* `Stop`: when a run is stopped;
* `synthesizeRoutes`: the analyses of some routes, in their order.
-/

namespace RouteDoc.Service

/-- How many routes a batch has, and the times between analyses of a batch and
between batches. -/
structure Pace where
  batchSize : Int := 3
  requestDelay : Time := 1 / 2
  batchDelay : Time := 1
  deriving DecidableEq, Repr, Inhabited

/-- The pace that settings ask for. A delay without end, or one that is no number,
is none in virtual time. -/
def Pace.ofSettings (s : ServiceSettings) : Pace :=
  ⟨s.batchSize, s.requestDelay.toRat, s.batchDelay.toRat⟩

/-- When a run is stopped: never, from the start, at a time, or as soon as the
service has been asked some number of times. -/
inductive Stop
  | never
  | fromStart
  | atTime (time : Time)
  | afterRequests (n : Nat)
  deriving DecidableEq, Repr, Inhabited

/-- Whether the run has been stopped. -/
def Stop.holds (s : Stop) (w : World) : Bool :=
  match s with
  | never => false
  | fromStart => true
  | atTime time => time ≤ w.now
  | afterRequests n => n != 0 && n ≤ w.requests.length

/-- Why no batches can be made. -/
inductive BatchError
  | emptyBatch
  deriving DecidableEq, Repr

/-- The wording of an error. -/
def BatchError.message : BatchError → String
  | emptyBatch => "range() arg 3 must not be zero"

/-- Lists of `size` elements, the last perhaps shorter, that make up a list. -/
def batchesOf {α : Type} (size : Nat) : List α → List (List α)
  | [] => []
  | x :: xs => (x :: xs.take (size - 1)) :: batchesOf size (xs.drop (size - 1))
  termination_by xs => xs.length
  decreasing_by simp only [List.length_drop, List.length_cons]; omega

/-- The batches of a list, none if the size is negative. -/
def batches {α : Type} (size : Int) (xs : List α) : Except BatchError (List (List α)) :=
  if size = 0 then .error .emptyBatch
  else if size < 0 then .ok []
  else .ok (batchesOf size.toNat xs)

/-- The outcome for a route that is not analysed. -/
def cancelled (r : Route) : Outcome :=
  { analysis := templateAnalysis r, diagnostics := [.cancelled r] }

/-- The outcome for a route whatever became of its analysis. -/
def settled (r : Route) : Except Crash Outcome → Outcome
  | .ok outcome => outcome
  | .error crash =>
    { analysis := templateAnalysis r, diagnostics := [.synthesizerFault r crash.message] }

/-- The elements of a list with their numbers, from `n` on. -/
def numberedFrom {α : Type} : Nat → List α → List (Nat × α)
  | _, [] => []
  | n, x :: xs => (n, x) :: numberedFrom (n + 1) xs

/-- How long the analysis of a route waits, given its place in the batch. -/
def stagger (pace : Pace) (place : Nat) : Time := wait (pace.requestDelay * place)

/-- The analysis of the route in a slot, to begin when its turn in the batch
comes. -/
def waitingFor (pace : Pace) (synthesizer : Synthesizer) (now : Time) :
    Nat × Nat × Route → Waiting Outcome
  | (place, slot, r) =>
    ⟨now + stagger pace place, slot, cancelled r, (synthesizer.task r).map (settled r)⟩

/-- The schedule of the analyses of a batch. -/
def batchSchedule (pace : Pace) (synthesizer : Synthesizer) (batch : List (Nat × Route))
    (w : World) : Schedule Outcome :=
  { waiting := (numberedFrom 0 batch).map (waitingFor pace synthesizer w.now), world := w }

/-- The world in which the next batch may begin: a pause lies between batches,
but does not follow the last. -/
def pauseBefore {β : Type} (pace : Pace) (later : List β) (w : World) : World :=
  if later.isEmpty then w else w.sleep pace.batchDelay

/-- The analyses of some batches, until the run is stopped. -/
def runBatches (pace : Pace) (synthesizer : Synthesizer) (stopped : World → Bool) :
    List (List (Nat × Route)) → World → List (Ended Outcome) × World
  | [], w => ([], w)
  | batch :: later, w =>
    if stopped w then ([], w)
    else
      let s := (batchSchedule pace synthesizer batch (w.record .opened)).run stopped
      let (more, w) := runBatches pace synthesizer stopped later (pauseBefore pace later s.world)
      (s.ends ++ more, w)

/-- The outcome in a slot; the route there is cancelled if none came. -/
def outcomeAt (ends : List (Ended Outcome)) (slot : Nat) (r : Route) : Outcome :=
  match ends.find? (·.slot == slot) with
  | some e => e.result
  | none => cancelled r

/-- Routes with their analyses, and what is reported about them. -/
structure BatchResult where
  results : List DocumentedRoute := []
  diagnostics : List Diagnostic := []
  deriving Inhabited

/-- Routes with their outcomes. -/
def BatchResult.ofOutcomes (outcomes : List (Route × Outcome)) : BatchResult :=
  { results := outcomes.map fun (r, o) => ⟨r, o.analysis, o.strategy⟩
    diagnostics := outcomes.flatMap (·.2.diagnostics) }

/-- The analyses of some routes in their order, and the world afterwards. -/
def synthesizeRoutes (pace : Pace) (synthesizer : Synthesizer) (stopped : World → Bool)
    (routes : List Route) (w : World) : Except BatchError (BatchResult × World) :=
  let slots := numberedFrom 0 routes
  (batches pace.batchSize slots).map fun bs =>
    let (ends, w) := runBatches pace synthesizer stopped bs w
    (.ofOutcomes (slots.map fun (slot, r) => (r, outcomeAt ends slot r)), w)

/-- The analyses that follow from the shapes of routes. -/
def templateResults (routes : List Route) : BatchResult :=
  { results := routes.map fun r => ⟨r, templateAnalysis r, .template⟩ }

end RouteDoc.Service
