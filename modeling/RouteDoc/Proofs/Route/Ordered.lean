import RouteDoc.Proofs.Route.Sited
import RouteDoc.Proofs.Source.Traversed

/-!
# Routes in the order of their lines

The calls of a tree are those that the loop over a stack finds, and the routes come in
their order. A call that registers a route inside the handler of another follows it.

* `map_call_sites`: the calls of a tree, each with its statement, are those of the loop;
* `extractRoutes_pairwise_line`: the lines of the routes of a tree do not go back;
* `iterNodes_lines`: the loop visits each node once and in order, and so do the routes.
-/

namespace RouteDoc

open Source (Node Kind Walk iterNodes WellPlaced)

/-- The calls at and below a node, whatever statement it belongs to. -/
theorem map_call_sitesAt (n : Node) : ∀ (statement : Node) (before : List Node),
    (sitesAt statement before n).map Site.call = n.preorder.filter (·.kind == .call) := by
  induction n using Node.induction_children with
  | h n ih =>
    intro statement before
    obtain ⟨kind, role, span, children⟩ := n
    have hbelow : ∀ owner earlier ns, (∀ c ∈ ns, c ∈ children) →
        (sitesBelow owner earlier ns).map Site.call =
          (Node.preorderAll ns).filter (·.kind == .call) := by
      intro owner earlier ns hns
      induction ns generalizing earlier with
      | nil => rfl
      | cons c ns ihns =>
        obtain ⟨hc, hns⟩ := List.forall_mem_cons.mp hns
        rw [Node.preorderAll, List.filter_append, ← ihns (c :: earlier) hns]
        cases owner with
        | none => rw [sitesBelow, List.map_append, ih c hc]
        | some owner => rw [sitesBelow, List.map_append, ih c hc]
    rw [sitesAt, Node.preorder, List.map_append, hbelow _ _ _ fun _ hc => hc, List.filter_cons]
    cases hcall : kind == .call <;> simp [Node.kind, hcall]

/-- The calls of a tree are those that the loop over a stack finds. -/
theorem map_call_sites (root : Node) : (sites root).map Site.call = iterNodes .call root := by
  rw [sites, map_call_sitesAt, Source.iterNodes_eq]

/-- Where the rows of nodes lie one inside another, the lines of the routes of a tree do not
go back. -/
theorem extractRoutes_pairwise_line {root : Node} (h : ∀ n ∈ root.preorder, n.InRows)
    (source : List Char) (file : String) :
    (extractRoutes source file root).Pairwise fun a b => a.line ≤ b.line := by
  have hcalls : ((sites root).map Site.call).Pairwise
      fun a b => a.span.startRow ≤ b.span.startRow := by
    rw [map_call_sites, Source.iterNodes_eq]
    exact (Node.preorder_pairwise_startRow h).filter _
  rw [extractRoutes, List.pairwise_filterMap]
  refine (List.pairwise_map.mp hcalls).imp fun hle a ha b hb => ?_
  rw [(declares_of_routeOfCall ha).line, (declares_of_routeOfCall hb).line]
  exact Nat.succ_le_succ hle

/-- The loop over a stack ends on every tree after one round for each node. It finds the
nodes of a kind in the order in which parents come before their children and these before
the next siblings, the lexicographic order of their places, and each of them once. The
calls from which routes are taken are found so; and where the rows of nodes lie one inside
another, the lines of the routes do not go back. -/
theorem iterNodes_lines (root : Node) :
    (∀ kind,
      (∃ w, Walk.after kind root.preorder.length { stack := [root] } = some w ∧
        w.step kind = none ∧ w.found = iterNodes kind root) ∧
      iterNodes kind root = root.preorder.filter (·.kind == kind) ∧
      ∃ places : List (List Nat), places.Pairwise (· < ·) ∧
        (∀ place, place ∈ places ↔ ∃ n, root.at? place = some n ∧ n.kind = kind) ∧
        places.map root.at? = (iterNodes kind root).map some) ∧
      (sites root).map Site.call = iterNodes .call root ∧
      ((∀ n ∈ root.preorder, n.InRows) → ∀ source file,
        (extractRoutes source file root).Pairwise fun a b => a.line ≤ b.line) := by
  refine ⟨fun kind => ⟨?loop, Source.iterNodes_eq kind root, root.placesOf kind,
    root.places_pairwise.filter _, fun _ => Node.mem_placesOf, ?places⟩, map_call_sites root,
    extractRoutes_pairwise_line⟩
  case loop =>
    obtain ⟨hafter, hstep, -⟩ := @Walk.after_run kind { stack := [root] }
    rw [Source.pending_start] at hafter
    exact ⟨_, hafter, hstep, rfl⟩
  case places => rw [Node.map_at?_placesOf, Source.iterNodes_eq]

/-- A route inside the handler of another, and one after both. -/
def nestedText : List Char :=
  "app.get('/a', () => \x7b\n  app.get('/b', list);\n\x7d); app.get('/c', list);".toList

theorem iterNodes_lines_nested :
    ∃ root, Source.parseAs .javascript nestedText = some root ∧
      (∀ n ∈ root.preorder, n.InRows) ∧
      (extractRoutes nestedText "" root).map (fun r => (r.path, r.line)) =
        [("/a", 1), ("/b", 2), ("/c", 3)] ∧
      (extractRoutes nestedText "" root).Pairwise fun a b => a.line ≤ b.line := by
  have hparsed : (Source.parseAs .javascript nestedText).any (fun root =>
      decide (WellPlaced nestedText root) &&
        (extractRoutes nestedText "" root).map (fun r => (r.path, r.line)) ==
          [("/a", 1), ("/b", 2), ("/c", 3)]) = true := by
    decide +kernel
  obtain ⟨root, hroot, hparsed⟩ := (Option.any_eq_true _ _).mp hparsed
  obtain ⟨hplaced, hlines⟩ := (Bool.and_eq_true _ _).mp hparsed
  have hrows := (of_decide_eq_true hplaced : WellPlaced nestedText root).inRows
  exact ⟨root, hroot, hrows, beq_iff_eq.mp hlines,
    (iterNodes_lines root).2.2 hrows nestedText ""⟩

end RouteDoc
