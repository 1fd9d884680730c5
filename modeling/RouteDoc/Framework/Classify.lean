import RouteDoc.Framework.Indicator

/-!
# Classification of file contents

Which framework a file uses, and whether it is worth reading for routes.

* `score`: how well a content fits a framework;
* `best`: the first of the frameworks that fit best;
* `classify`: the verdict on a content.
-/

namespace RouteDoc.Framework

open Number (Binary64)

/-- How well a content fits a framework. -/
structure Score where
  framework : String
  score : Binary64
  occurrences : Nat
  patterns : List String
  deriving DecidableEq, Repr, Inhabited

/-- Why a file is not read for routes. -/
inductive Reason
  | test
  | config
  | unreadable
  | noRoutes
  deriving DecidableEq, Repr, Inhabited

/-- The name of a reason in reports. -/
def Reason.name : Reason → String
  | test => "test-file"
  | config => "config-file"
  | unreadable => "unreadable"
  | noRoutes => "no-routes"

/-- The verdict on a file. -/
structure Classification where
  path : String
  framework : Option String := none
  confidence : Binary64 := .zero false
  occurrences : Nat := 0
  hasRoutes : Bool := false
  reason : Option Reason := none
  patterns : List String := []
  deriving DecidableEq, Repr, Inhabited

/-- A number of tenths. -/
def tenths (n : Nat) : Binary64 := .ofDecimal false n (-1)

/-- How well a content fits a framework: its import counts once, each route
pattern up to three times, and hints at an interface a little. -/
def score (content : List Char) (s : Signature) : Score :=
  let imports := s.imports.any (·.occursIn content)
  let counts := s.routes.map (·.count content)
  let routes := counts.any (· != 0)
  let hints := hits apiHints content
  let total : Binary64 := if imports then .zero false + s.importWeight else .zero false
  let total := counts.foldl
    (fun t n => if n == 0 then t else t + s.routeWeight * .ofInt (Nat.min n 3 : Nat)) total
  let total :=
    if hints == 0 then total else total + Binary64.min (.ofInt hints * tenths 1) (tenths 3)
  { framework := s.id
    score := total
    occurrences := occurrences s.routes content
    patterns := (if imports then [s.id ++ "_import"] else []) ++
      (if routes then [s.id ++ "_routes"] else []) ++ (if hints == 0 then [] else ["api_patterns"]) }

/-- The better of the best score so far and the next; the earlier of two equal
scores, and none that is not positive. -/
def better (best : Option Score) (next : Score) : Option Score :=
  if Binary64.lt next.score (.zero false) || Binary64.eq next.score (.zero false) then best
  else
    match best with
    | none => some next
    | some b => if Binary64.lt b.score next.score then some next else some b

/-- The first of the scores that are greatest, if one is positive. -/
def best (scores : List Score) : Option Score := scores.foldl better none

/-- The verdict that a content fits a framework. -/
def Score.verdict (s : Score) (path : String) (hasRoutes : Bool) : Classification :=
  { path
    framework := some s.framework
    confidence := Binary64.min s.score 1
    occurrences := s.occurrences
    hasRoutes
    reason := if hasRoutes then none else some .noRoutes
    patterns := s.patterns }

/-- The verdict on a content by the frameworks examined, given in order. -/
def classify (registry : Registry) (frameworks : List String) (path : String)
    (content : List Char) : Classification :=
  if looksLikeTest content then { path, reason := some .test }
  else if looksLikeConfig content then { path, reason := some .config }
  else
    let top := best ((frameworks.filterMap registry.get?).map (score content))
    let clear := (top.map fun s => 0 < s.occurrences || Binary64.lt (tenths 5) s.score).getD false
    let generic := occurrences apiHints content
    match top with
    | some s =>
      if clear then s.verdict path true
      else if 2 < generic then byHints path generic
      else s.verdict path false
    | none => if 2 < generic then byHints path generic else { path, reason := some .noRoutes }
where
  /-- The verdict that hints alone give. -/
  byHints (path : String) (n : Nat) : Classification :=
    { path
      framework := some "unknown"
      confidence := Binary64.min (.ofInt n * tenths 1) (tenths 5)
      occurrences := n
      hasRoutes := true
      patterns := ["generic_routes"] }

end RouteDoc.Framework
