import RouteDoc.Entries
import RouteDoc.Route.Basic

/-!
# Tasks in virtual time

What goes on while routes are analysed is described by tasks, which sleep and
ask the service; time passes only while all of them sleep.

* `World`: the clock, the answers still to come and what has happened;
* `Task`: what a task does next, with a bound on how often it goes on;
* `Task.turn`: a task until it sleeps or ends.
-/

namespace RouteDoc.Service

/-- Seconds since the run began. -/
abbrev Time := Rat

/-- The time that a wait takes: none if it is negative. -/
def wait (seconds : Time) : Time := if seconds < 0 then 0 else seconds

/-- What the service says: a text, a failure after which it may be asked again,
or a fault that ends the analysis. -/
inductive Answer
  | text (s : String)
  | failure (message : String)
  | crash (message : String)
  deriving DecidableEq, Repr, Inhabited

/-- An answer and how long it takes. -/
structure Reply where
  delay : Time := 0
  answer : Answer := .text ""
  deriving DecidableEq, Repr, Inhabited

/-- The replies to come, by the verb and path that is asked about; those under
a star are for all others. -/
abbrev Script := Entries (List Reply)

/-- The entry of a script that counts for a route. -/
def Script.key (script : Script) (r : Route) : String :=
  if Entries.has script r.label then r.label else "*"

/-- The next reply about a route, and the script after it. The last reply is
given again and again; where there is none, the service says nothing. -/
def Script.next (script : Script) (r : Route) : Reply × Script :=
  let key := Script.key script r
  match Entries.get? script key with
  | some (reply :: later :: rest) => (reply, Entries.put script key (later :: rest))
  | some [reply] => (reply, script)
  | some [] | none => ({}, script)

/-- What is put on record: that a batch was begun, that the analysis of the route
in a slot began or ended, or that the service was asked about a route. -/
inductive Event
  | opened
  | started (slot : Nat)
  | asked (r : Route)
  | ended (slot : Nat)
  deriving DecidableEq, Repr

/-- The clock, the replies to come, and what has happened, last first. -/
structure World where
  now : Time := 0
  script : Script := []
  events : List (Time × Event) := []
  deriving Inhabited

namespace World

/-- The world with an event on record. -/
def record (w : World) (e : Event) : World := { w with events := (w.now, e) :: w.events }

/-- The service is asked about a route. -/
def ask (w : World) (r : Route) : Reply × World :=
  let (reply, script) := Script.next w.script r
  (reply, { w.record (.asked r) with script })

/-- When the service was asked, and about what, in order. -/
def requests (w : World) : List (Time × Route) :=
  w.events.reverse.filterMap fun
    | (time, .asked r) => some (time, r)
    | _ => none

/-- The clock set to a time. -/
def setNow (w : World) (time : Time) : World := { w with now := time }

/-- The clock moved on; time does not run backwards. -/
def sleep (w : World) (seconds : Time) : World :=
  { w with now := w.now + wait seconds }

end World

/-- What a task with a result does next, where `n` bounds how often it goes on:
it ends, sleeps or asks the service. -/
inductive Task (α : Type) : Nat → Type
  | done {n : Nat} (result : α) : Task α n
  | sleep {m n : Nat} (seconds : Time) (next : Task α m) (h : m < n) : Task α n
  | ask {m n : Nat} (r : Route) (next : Reply → Task α m) (h : m < n) : Task α n

/-- Where a task stands after its turn: at its end, or asleep. -/
inductive Rest (α : Type) (n : Nat)
  | ended (result : α)
  | asleep {m : Nat} (seconds : Time) (next : Task α m) (h : m < n)

/-- The same with a greater bound. -/
def Rest.mono {α : Type} {m n : Nat} (h : m < n) : Rest α m → Rest α n
  | .ended result => .ended result
  | .asleep seconds next h' => .asleep seconds next (Nat.lt_trans h' h)

namespace Task

variable {α β : Type}

/-- A task with its result changed. -/
def map (f : α → β) : {n : Nat} → Task α n → Task β n
  | _, done result => done (f result)
  | _, sleep seconds next h => sleep seconds (next.map f) h
  | _, ask r next h => ask r (fun reply => (next reply).map f) h

/-- A task until it sleeps or ends. -/
def turn : {n : Nat} → Task α n → World → Rest α n × World
  | _, done result, w => (.ended result, w)
  | _, sleep seconds next h, w => (.asleep seconds next h, w)
  | _, ask r next h, w =>
    let (reply, w) := w.ask r
    let (rest, w) := (next reply).turn w
    (rest.mono h, w)

end Task

end RouteDoc.Service
