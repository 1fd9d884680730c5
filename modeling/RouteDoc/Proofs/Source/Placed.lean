import RouteDoc.Source.Node

/-!
# Trees in their texts

A tree stands well in a text if the children of each node come one after another inside it,
and the rows are those of the offsets.

* `rowAt`: the row of an offset;
* `Node.induction_children`: induction from the children of a node to the node;
* `Node.Placed`, `WellPlaced`: nodes and trees that stand well in a text;
* `WellPlaced.rows`: siblings end before the next ones start, also in rows.
-/

namespace RouteDoc.Source

/-! ## Rows -/

/-- The row of an offset: the line feeds before it. -/
def rowAt (source : List Char) (offset : Nat) : Nat := (source.take offset).count '\n'

theorem rowAt_mono (source : List Char) {a b : Nat} (h : a ≤ b) :
    rowAt source a ≤ rowAt source b :=
  (List.take_prefix_take_left h).sublist.count_le _

namespace Node

/-! ## Nodes below a node -/

/-- What holds for a node once it holds for its children holds for all nodes. -/
theorem induction_children {P : Node → Prop} (h : ∀ n : Node, (∀ c ∈ n.children, P c) → P n)
    (n : Node) : P n :=
  @Node.rec P (fun cs => ∀ c ∈ cs, P c) (fun k r s cs hcs => h (mk k r s cs) hcs)
    (fun _ hc => nomatch hc) (fun _ _ hn hcs => List.forall_mem_cons.mpr ⟨hn, hcs⟩) n

theorem mem_preorderAll {m : Node} {ns : List Node} :
    m ∈ preorderAll ns ↔ ∃ n ∈ ns, m ∈ n.preorder := by
  induction ns with
  | nil => simp [preorderAll]
  | cons n ns ih => simp [preorderAll, ih]

theorem mem_preorder {m n : Node} :
    m ∈ n.preorder ↔ m = n ∨ ∃ c ∈ n.children, m ∈ c.preorder := by
  cases n with
  | mk k r s cs => rw [preorder, List.mem_cons, mem_preorderAll]; rfl

theorem self_mem_preorder (n : Node) : n ∈ n.preorder := mem_preorder.mpr (.inl rfl)

theorem mem_preorder_of_child {m c n : Node} (hc : c ∈ n.children) (hm : m ∈ c.preorder) :
    m ∈ n.preorder :=
  mem_preorder.mpr (.inr ⟨c, hc, hm⟩)

theorem mem_preorder_trans {a b c : Node} (hab : a ∈ b.preorder) (hbc : b ∈ c.preorder) :
    a ∈ c.preorder := by
  induction c using induction_children with
  | h c ih =>
    rcases mem_preorder.mp hbc with rfl | ⟨d, hd, hbd⟩
    · exact hab
    · exact mem_preorder_of_child hd (ih d hd hbd)

/-! ## Nodes in place -/

/-- A node stands well in a text: its children come one after another inside it, and its rows
are those of its offsets. -/
structure Placed (source : List Char) (n : Node) : Prop where
  startRow_eq : n.span.startRow = rowAt source n.span.start
  stopRow_eq : n.span.stopRow = rowAt source n.span.stop
  start_le_stop : n.span.start ≤ n.span.stop
  inside : ∀ c ∈ n.children, n.span.start ≤ c.span.start ∧ c.span.stop ≤ n.span.stop
  ordered : n.children.Pairwise fun a b => a.span.stop ≤ b.span.start

instance (source : List Char) (n : Node) : Decidable (n.Placed source) :=
  decidable_of_iff
    (n.span.startRow = rowAt source n.span.start ∧ n.span.stopRow = rowAt source n.span.stop ∧
      n.span.start ≤ n.span.stop ∧
      (∀ c ∈ n.children, n.span.start ≤ c.span.start ∧ c.span.stop ≤ n.span.stop) ∧
      n.children.Pairwise fun a b => a.span.stop ≤ b.span.start)
    ⟨fun ⟨hstart, hstop, hle, hin, hord⟩ => ⟨hstart, hstop, hle, hin, hord⟩,
      fun h => ⟨h.startRow_eq, h.stopRow_eq, h.start_le_stop, h.inside, h.ordered⟩⟩

section Rows

variable {source : List Char} {a b : Node}

theorem Placed.startRow_le_stopRow (h : a.Placed source) : a.span.startRow ≤ a.span.stopRow := by
  rw [h.startRow_eq, h.stopRow_eq]
  exact rowAt_mono source h.start_le_stop

theorem Placed.stopRow_le_startRow (ha : a.Placed source) (hb : b.Placed source)
    (hle : a.span.stop ≤ b.span.start) : a.span.stopRow ≤ b.span.startRow := by
  rw [ha.stopRow_eq, hb.startRow_eq]
  exact rowAt_mono source hle

end Rows

end Node

/-- A tree that stands well in a text. -/
def WellPlaced (source : List Char) (root : Node) : Prop := ∀ n ∈ root.preorder, n.Placed source

instance (source : List Char) (root : Node) : Decidable (WellPlaced source root) :=
  inferInstanceAs (Decidable (∀ n ∈ root.preorder, n.Placed source))

namespace WellPlaced

variable {source : List Char} {root n : Node}

theorem placed (h : WellPlaced source root) : root.Placed source := h root root.self_mem_preorder

theorem of_mem (h : WellPlaced source root) (hn : n ∈ root.preorder) : WellPlaced source n :=
  fun m hm => h m (Node.mem_preorder_trans hm hn)

theorem of_child (h : WellPlaced source root) (hn : n ∈ root.children) : WellPlaced source n :=
  h.of_mem (Node.mem_preorder_of_child hn n.self_mem_preorder)

/-- A child ends no later than on the row on which the next one starts. -/
theorem rows (h : WellPlaced source root) :
    root.children.Pairwise fun a b => a.span.stopRow ≤ b.span.startRow :=
  h.placed.ordered.imp_of_mem fun ha hb hle =>
    (h.of_child ha).placed.stopRow_le_startRow (h.of_child hb).placed hle

end WellPlaced

end RouteDoc.Source
