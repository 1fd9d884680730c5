import RouteDoc.Proofs.Source.Placed
import RouteDoc.Source.Walk

/-!
# Nodes in order

The loop over a stack visits all nodes of a tree, parents before their children and those
before the next siblings. As places in the tree the nodes come in lexicographic order, so
that none comes twice.

* `Walk.after`, `Walk.exists_after`: any number of rounds, which take as many nodes of
  those that are to come;
* `Walk.run_eq`, `iterNodes_eq`: the loop ends and finds the nodes of the kind;
* `Node.at?`, `Node.places`: nodes by their places, and all places in order
  (`Node.map_at?_places`, `Node.places_pairwise`);
* `Node.InRows`, `preorder_pairwise_startRow`: where the rows of children lie one after
  another inside those of their parent, nodes come in the order of their first rows.
-/

namespace RouteDoc.Source

/-! ## The loop -/

namespace Walk

variable {kind : Kind}

theorem step_eq_none_iff {w : Walk} : w.step kind = none ↔ w.pending = [] := by
  constructor
  · intro h
    have hstack : w.stack = [] := List.getLast?_eq_none_iff.mp (Option.map_eq_none_iff.mp h)
    rw [pending, hstack]
    rfl
  · intro h
    cases hstep : w.step kind with
    | none => rfl
    | some w' =>
      obtain ⟨n, hn, -⟩ := pending_of_step hstep
      rw [h] at hn
      cases hn

/-- The state after a number of rounds. -/
def after (kind : Kind) : Nat → Walk → Option Walk
  | 0, w => some w
  | k + 1, w => (w.step kind).bind (after kind k)

/-- As long as nodes are to come there is a next round. After `k` rounds the first `k` of
them were visited and those of the kind among them found. -/
theorem exists_after (k : Nat) (w : Walk) (hk : k ≤ w.pending.length) :
    ∃ w', w.after kind k = some w' ∧ w'.pending = w.pending.drop k ∧
      w'.found = w.found ++ (w.pending.take k).filter (·.kind == kind) := by
  induction k generalizing w with
  | zero => exact ⟨w, rfl, rfl, by simp⟩
  | succ k ih =>
    cases hstep : w.step kind with
    | none =>
      rw [step_eq_none_iff.mp hstep] at hk
      cases hk
    | some v =>
      obtain ⟨n, hpending, hfound⟩ := pending_of_step hstep
      rw [hpending] at hk ⊢
      obtain ⟨w', hafter, hdrop, hw'⟩ := ih v (Nat.le_of_succ_le_succ hk)
      refine ⟨w', by rw [after, hstep]; exact hafter, hdrop, ?_⟩
      rw [hw', hfound, List.append_assoc, ← List.filter_append]
      rfl

theorem run_of_step {w w' : Walk} (h : w.step kind = some w') : w.run kind = w'.run kind := by
  rw [run]
  split
  · rename_i hnone
    rw [h] at hnone
    cases hnone
  · rename_i v hv
    rw [h] at hv
    rw [Option.some.inj hv]

theorem run_of_step_eq_none {w : Walk} (h : w.step kind = none) : w.run kind = w := by
  rw [run]
  split
  · rfl
  · rename_i v hv
    rw [h] at hv
    cases hv

/-- Rounds that were made are part of the loop. -/
theorem run_of_after {k : Nat} {w w' : Walk} (h : w.after kind k = some w') :
    w.run kind = w'.run kind := by
  induction k generalizing w with
  | zero => rw [Option.some.inj h]
  | succ k ih =>
    obtain ⟨v, hv, hafter⟩ := Option.bind_eq_some_iff.mp h
    rw [run_of_step hv, ih hafter]

/-- The loop ends after as many rounds as nodes are to come. -/
theorem after_run (w : Walk) :
    w.after kind w.pending.length = some (w.run kind) ∧ (w.run kind).step kind = none ∧
      (w.run kind).found = w.found ++ w.pending.filter (·.kind == kind) := by
  obtain ⟨w', hafter, hpending, hfound⟩ := @exists_after kind _ w (Nat.le_refl _)
  rw [List.drop_length] at hpending
  rw [List.take_length] at hfound
  have hstep : w'.step kind = none := step_eq_none_iff.mpr hpending
  rw [run_of_after hafter, run_of_step_eq_none hstep]
  exact ⟨hafter, hstep, hfound⟩

end Walk

theorem pending_start (root : Node) : ({ stack := [root] } : Walk).pending = root.preorder := by
  rw [Walk.pending, List.reverse_singleton, Node.preorderAll, Node.preorderAll, List.append_nil]

theorem iterNodes_eq (kind : Kind) (root : Node) :
    iterNodes kind root = root.preorder.filter (·.kind == kind) := by
  rw [iterNodes, (Walk.after_run _).2.2, pending_start]
  rfl

/-! ## Places in a tree -/

namespace Node

/-- The node at a place: the numbers of the children on the way to it. -/
def at? : Node → List Nat → Option Node
  | n, [] => some n
  | n, i :: place => n.children[i]?.bind (·.at? place)

mutual

/-- The places of a node and of all nodes below it, in order. -/
def places : Node → List (List Nat)
  | mk _ _ _ cs => [] :: placesFrom 0 cs

/-- The places at and below siblings, the first of which has a given number. -/
def placesFrom (i : Nat) : List Node → List (List Nat)
  | [] => []
  | n :: ns => n.places.map (i :: ·) ++ placesFrom (i + 1) ns

end

theorem mem_placesFrom {i : Nat} {ns : List Node} {place : List Nat} :
    place ∈ placesFrom i ns ↔
      ∃ k n rest, ns[k]? = some n ∧ rest ∈ n.places ∧ place = (i + k) :: rest := by
  induction ns generalizing i with
  | nil => simp [placesFrom]
  | cons n ns ih =>
    rw [placesFrom, List.mem_append, List.mem_map, ih]
    constructor
    · rintro (⟨rest, hrest, rfl⟩ | ⟨k, m, rest, hk, hrest, rfl⟩)
      · exact ⟨0, n, rest, rfl, hrest, rfl⟩
      · exact ⟨k + 1, m, rest, hk, hrest, by rw [Nat.add_right_comm, Nat.add_assoc]⟩
    · rintro ⟨_ | k, m, rest, hk, hrest, rfl⟩
      · obtain rfl := Option.some.inj hk
        exact .inl ⟨rest, hrest, rfl⟩
      · exact .inr ⟨k, m, rest, hk, hrest, by rw [Nat.add_right_comm, Nat.add_assoc]⟩

/-- The places of a tree are those at which there is a node. -/
theorem mem_places {place : List Nat} {n : Node} : place ∈ n.places ↔ (n.at? place).isSome := by
  induction place generalizing n with
  | nil =>
    obtain ⟨k, r, s, cs⟩ := n
    rw [places]
    exact iff_of_true List.mem_cons_self rfl
  | cons i place ih =>
    obtain ⟨k, r, s, cs⟩ := n
    rw [places, List.mem_cons, mem_placesFrom, at?, Option.isSome_iff_exists]
    constructor
    · rintro (h | ⟨j, c, rest, hc, hrest, hplace⟩)
      · cases h
      · obtain ⟨rfl, rfl⟩ := List.cons.inj hplace
        obtain ⟨m, hm⟩ := Option.isSome_iff_exists.mp (ih.mp hrest)
        exact ⟨m, Option.bind_eq_some_iff.mpr ⟨c, by rwa [Nat.zero_add], hm⟩⟩
    · rintro ⟨m, hm⟩
      obtain ⟨c, hc, hm⟩ := Option.bind_eq_some_iff.mp hm
      exact .inr ⟨i, c, place, hc, ih.mpr (Option.isSome_iff_exists.mpr ⟨m, hm⟩),
        by rw [Nat.zero_add]⟩

/-- The nodes at the places of a tree are its nodes in order. -/
theorem map_at?_places (n : Node) : n.places.map n.at? = n.preorder.map some := by
  induction n using induction_children with
  | h n ih =>
    obtain ⟨k, r, s, cs⟩ := n
    -- The siblings from some number on have nodes in front of them.
    have hfrom : ∀ front ns, cs = front ++ ns →
        (placesFrom front.length ns).map (mk k r s cs).at? = (preorderAll ns).map some := by
      intro front ns
      induction ns generalizing front with
      | nil => exact fun _ => rfl
      | cons c ns ihns =>
        intro hcs
        have hc : cs[front.length]? = some c := by
          rw [hcs, List.getElem?_append_right (Nat.le_refl _), Nat.sub_self]
          rfl
        have hrest := ihns (front ++ [c]) (by rw [hcs, List.append_assoc]; rfl)
        have hmem : c ∈ cs := by rw [hcs]; simp
        rw [List.length_append, List.length_singleton] at hrest
        rw [placesFrom, preorderAll, List.map_append, List.map_append, hrest, List.map_map,
          ← ih c hmem]
        refine congrArg (· ++ _) (List.map_congr_left fun place _ => ?_)
        rw [Function.comp_apply, at?, children, hc, Option.bind_some]
    rw [places, preorder, List.map_cons, List.map_cons]
    exact congrArg (some (mk k r s cs) :: ·) (hfrom [] cs rfl)

/-- The places of a tree are in lexicographic order. -/
theorem places_pairwise (n : Node) : n.places.Pairwise (· < ·) := by
  induction n using induction_children with
  | h n ih =>
    obtain ⟨k, r, s, cs⟩ := n
    have hfrom : ∀ i ns, (∀ c ∈ ns, c ∈ cs) → (placesFrom i ns).Pairwise (· < ·) := by
      intro i ns hns
      induction ns generalizing i with
      | nil => exact List.Pairwise.nil
      | cons c ns ihns =>
        obtain ⟨hc, hns⟩ := List.forall_mem_cons.mp hns
        rw [placesFrom, List.pairwise_append, List.pairwise_map]
        refine ⟨(ih c hc).imp fun hlt => List.cons_lt_cons_iff.mpr (.inr ⟨rfl, hlt⟩),
          ihns (i + 1) hns, fun a ha b hb => ?_⟩
        obtain ⟨rest, -, rfl⟩ := List.mem_map.mp ha
        obtain ⟨j, m, rest', -, -, rfl⟩ := mem_placesFrom.mp hb
        exact List.cons_lt_cons_iff.mpr (.inl (by omega))
    rw [places, List.pairwise_cons]
    refine ⟨fun place hplace => ?_, hfrom 0 cs fun _ hc => hc⟩
    obtain ⟨j, m, rest, -, -, rfl⟩ := mem_placesFrom.mp hplace
    exact List.nil_lt_cons _ _

/-- The places of the nodes of a kind. -/
def placesOf (kind : Kind) (root : Node) : List (List Nat) :=
  root.places.filter fun place => (root.at? place).any (·.kind == kind)

theorem mem_placesOf {kind : Kind} {root : Node} {place : List Nat} :
    place ∈ root.placesOf kind ↔ ∃ n, root.at? place = some n ∧ n.kind = kind := by
  rw [placesOf, List.mem_filter, mem_places, Option.any_eq_true]
  simp only [beq_iff_eq]
  refine and_iff_right_of_imp ?_
  rintro ⟨n, hn, -⟩
  rw [hn]
  rfl

theorem map_at?_placesOf (kind : Kind) (root : Node) :
    (root.placesOf kind).map root.at? = (root.preorder.filter (·.kind == kind)).map some := by
  have hfilter := congrArg (List.filter fun o : Option Node => o.any (·.kind == kind))
    root.map_at?_places
  rw [List.filter_map, List.filter_map] at hfilter
  exact hfilter

/-! ## Rows of nodes -/

/-- The rows of the children of a node lie one after another inside its own. -/
structure InRows (n : Node) : Prop where
  startRow_le_stopRow : n.span.startRow ≤ n.span.stopRow
  inside : ∀ c ∈ n.children, n.span.startRow ≤ c.span.startRow ∧ c.span.stopRow ≤ n.span.stopRow
  ordered : n.children.Pairwise fun a b => a.span.stopRow ≤ b.span.startRow

/-- The rows of all nodes of a tree lie inside those of the root. -/
theorem rows_of_mem_preorder {n : Node} (h : ∀ m ∈ n.preorder, m.InRows) :
    ∀ m ∈ n.preorder, n.span.startRow ≤ m.span.startRow ∧ m.span.stopRow ≤ n.span.stopRow := by
  induction n using induction_children with
  | h n ih =>
    intro m hm
    rcases mem_preorder.mp hm with rfl | ⟨c, hc, hmc⟩
    · exact ⟨Nat.le_refl _, Nat.le_refl _⟩
    · have hinside := (h n n.self_mem_preorder).inside c hc
      have hbelow := ih c hc (fun a ha => h a (mem_preorder_of_child hc ha)) m hmc
      omega

/-- Nodes come in the order of the rows on which they start. -/
theorem preorder_pairwise_startRow {n : Node} (h : ∀ m ∈ n.preorder, m.InRows) :
    n.preorder.Pairwise fun a b => a.span.startRow ≤ b.span.startRow := by
  induction n using induction_children with
  | h n ih =>
    have hself := h n n.self_mem_preorder
    have hrows : ∀ c ∈ n.children, ∀ m ∈ c.preorder, m.InRows := fun c hc m hm =>
      h m (mem_preorder_of_child hc hm)
    have hchildren : ∀ ns, (∀ c ∈ ns, c ∈ n.children) →
        (ns.Pairwise fun a b => a.span.stopRow ≤ b.span.startRow) →
          (preorderAll ns).Pairwise fun a b => a.span.startRow ≤ b.span.startRow := by
      intro ns hns hordered
      induction ns with
      | nil => exact List.Pairwise.nil
      | cons c ns ihns =>
        obtain ⟨hc, hns⟩ := List.forall_mem_cons.mp hns
        obtain ⟨hnext, hordered⟩ := List.pairwise_cons.mp hordered
        rw [preorderAll, List.pairwise_append]
        refine ⟨ih c hc (hrows c hc), ihns hns hordered, fun a ha b hb => ?_⟩
        obtain ⟨d, hd, hb⟩ := mem_preorderAll.mp hb
        have hfirst := rows_of_mem_preorder (hrows c hc) a ha
        have hsecond := rows_of_mem_preorder (hrows d (hns d hd)) b hb
        calc a.span.startRow ≤ a.span.stopRow := (hrows c hc a ha).startRow_le_stopRow
          _ ≤ c.span.stopRow := hfirst.2
          _ ≤ d.span.startRow := hnext d hd
          _ ≤ b.span.startRow := hsecond.1
    have hbelow := rows_of_mem_preorder h
    obtain ⟨k, r, s, cs⟩ := n
    rw [preorder, List.pairwise_cons]
    refine ⟨fun m hm => (hbelow m ?_).1, hchildren cs (fun _ hc => hc) hself.ordered⟩
    rw [preorder]
    exact List.mem_cons_of_mem _ hm

end Node

/-- Trees that stand well in a text have their rows one inside another. -/
theorem WellPlaced.inRows {source : List Char} {root : Node} (h : WellPlaced source root) :
    ∀ n ∈ root.preorder, n.InRows := by
  intro n hn
  have hn := h.of_mem hn
  refine ⟨hn.placed.startRow_le_stopRow, fun c hc => ?_, hn.rows⟩
  have hplaced := (hn.of_child hc).placed
  obtain ⟨hstart, hstop⟩ := hn.placed.inside c hc
  rw [hplaced.startRow_eq, hplaced.stopRow_eq, hn.placed.startRow_eq, hn.placed.stopRow_eq]
  exact ⟨rowAt_mono source hstart, rowAt_mono source hstop⟩

end RouteDoc.Source
