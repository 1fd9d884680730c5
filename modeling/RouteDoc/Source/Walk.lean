import RouteDoc.Source.Node

/-!
# Walks over trees

The nodes of a kind are found by a loop over a stack of the nodes that are still to be
visited, of which the last one is next. A node that is visited leaves its children on the
stack, the first one last.

* `Walk`, `Walk.step`: a state of the loop and one round of it;
* `Walk.pending`: the nodes that are still to come, one less after each round
  (`Walk.pending_of_step`);
* `Walk.run`, `iterNodes`: the loop to its end, and the nodes that it finds.
-/

namespace RouteDoc.Source

/-- A state of the loop: the nodes to visit, the next one last, and those found so far. -/
structure Walk where
  stack : List Node
  found : List Node := []
  deriving Inhabited

namespace Walk

/-- One round of the loop, if there is a node to visit. -/
def step (kind : Kind) (w : Walk) : Option Walk :=
  w.stack.getLast?.map fun n =>
    { stack := w.stack.dropLast ++ n.children.reverse
      found := if n.kind == kind then w.found ++ [n] else w.found }

/-- The nodes that are still to come: those on the stack with all below them. -/
def pending (w : Walk) : List Node := Node.preorderAll w.stack.reverse

theorem preorderAll_append (ms ns : List Node) :
    Node.preorderAll (ms ++ ns) = Node.preorderAll ms ++ Node.preorderAll ns := by
  induction ms with
  | nil => rfl
  | cons m ms ih => rw [List.cons_append, Node.preorderAll, ih, Node.preorderAll, List.append_assoc]

/-- A round takes the first of the nodes that are to come, and finds it if it is of the
kind. -/
theorem pending_of_step {kind : Kind} {w w' : Walk} (h : w.step kind = some w') :
    ∃ n, w.pending = n :: w'.pending ∧
      w'.found = w.found ++ [n].filter (·.kind == kind) := by
  obtain ⟨n, hn, rfl⟩ := Option.map_eq_some_iff.mp h
  obtain ⟨front, hstack⟩ := List.getLast?_eq_some_iff.mp hn
  refine ⟨n, ?_, ?_⟩
  · obtain ⟨k, r, s, cs⟩ := n
    simp only [pending, hstack, Node.children, List.reverse_append, List.reverse_reverse,
      List.reverse_singleton, List.singleton_append, List.dropLast_concat]
    rw [Node.preorderAll, Node.preorder, preorderAll_append, List.cons_append]
  · by_cases hkind : n.kind = kind <;> simp [hkind]

/-- The loop from a state on, until there is no node to visit. -/
def run (kind : Kind) (w : Walk) : Walk :=
  match _hstep : w.step kind with
  | none => w
  | some w' => w'.run kind
termination_by w.pending.length
decreasing_by
  obtain ⟨n, hn, -⟩ := pending_of_step _hstep
  rw [hn]
  exact Nat.lt_succ_self _

end Walk

/-- The nodes of a kind at and below a node, as the loop finds them. -/
def iterNodes (kind : Kind) (root : Node) : List Node := (Walk.run kind { stack := [root] }).found

end RouteDoc.Source
