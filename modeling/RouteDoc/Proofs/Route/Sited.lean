import Mathlib.Data.Option.Basic
import RouteDoc.Proofs.Source.Placed
import RouteDoc.Route.SourceFile

/-!
# Calls in their statements

A route has its method, line and comment from the call that declares it. The comment is the
sibling directly before the statement of the call. Nothing else stands on its rows, except
that the statement itself may begin on the last of them.

* `Node.Reaches`: a node belongs to a statement;
* `Site.InPlace`: the statement of a call among its siblings, with what stands before it;
* `inPlace_of_mem_sites`: the sites of a tree are in place;
* `Declares`: what a route has from its call;
* `DirectlyAbove`: a comment on rows of its own, the last of them right above a statement;
* `leadingComment_above`: where the comment of a route stands;
* `comment_beside`: a comment on the row of its statement.
-/

namespace RouteDoc

open Source (Node WellPlaced)

/-! ## Statements of calls -/

/-- A node belongs to a statement if it is the statement, or a node below it with none that
holds statements in between. -/
inductive Source.Node.Reaches : Node → Node → Prop
  | refl (statement : Node) : Reaches statement statement
  | child {statement n m : Node} (hkind : statement.kind.holdsStatements = false)
      (hn : n ∈ statement.children) (hm : Reaches n m) : Reaches statement m

/-- The statement of a call stands among the children of a node below `root` that holds
statements, after what stands before it there, and the call belongs to it. -/
def Site.InPlace (root : Node) (site : Site) : Prop :=
  ∃ holder ∈ root.preorder, holder.kind.holdsStatements = true ∧
    (∃ later, holder.children = site.before.reverse ++ site.statement :: later) ∧
    site.statement.Reaches site.call

theorem Site.InPlace.of_child {n root : Node} {site : Site} (hn : n ∈ root.children)
    (h : site.InPlace n) : site.InPlace root := by
  obtain ⟨holder, hholder, hrest⟩ := h
  exact ⟨holder, Node.mem_preorder_of_child hn hholder, hrest⟩

/-- Below siblings that belong to a statement are the calls below each of them. -/
theorem mem_sitesBelow_some {site : Site} {statement : Node} {before earlier ns : List Node} :
    site ∈ sitesBelow (some (statement, before)) earlier ns ↔
      ∃ n ∈ ns, site ∈ sitesAt statement before n := by
  induction ns generalizing earlier with
  | nil => simp [sitesBelow]
  | cons n ns ih => simp [sitesBelow, ih]

/-- Below siblings that are statements are the calls of each, which stands after those before
it. -/
theorem exists_of_mem_sitesBelow_none {site : Site} {earlier ns : List Node}
    (h : site ∈ sitesBelow none earlier ns) :
    ∃ front n back, ns = front ++ n :: back ∧ site ∈ sitesAt n (front.reverse ++ earlier) n := by
  induction ns generalizing earlier with
  | nil => cases h
  | cons n ns ih =>
    rw [sitesBelow, List.mem_append] at h
    rcases h with h | h
    · exact ⟨[], n, ns, rfl, h⟩
    · obtain ⟨front, m, back, rfl, hm⟩ := ih h
      refine ⟨n :: front, m, back, rfl, ?_⟩
      rwa [List.reverse_cons, List.append_assoc]

/-- A call at or below a node belongs to the statement of the node, or to one further down. -/
theorem sitesAt_cases (n : Node) :
    ∀ (statement : Node) (before : List Node), ∀ site ∈ sitesAt statement before n,
      (site.statement = statement ∧ site.before = before ∧ n.Reaches site.call) ∨
        site.InPlace n := by
  induction n using Node.induction_children with
  | h n ih =>
    intro statement before site hsite
    obtain ⟨kind, role, span, children⟩ := n
    rw [sitesAt, List.mem_append] at hsite
    rcases hsite with hself | hbelow
    · -- The node is itself the call.
      split at hself
      · obtain rfl := List.mem_singleton.mp hself
        exact .inl ⟨rfl, rfl, .refl _⟩
      · cases hself
    · cases hkind : kind.holdsStatements with
      | false =>
        -- Its children belong to the same statement.
        rw [hkind] at hbelow
        obtain ⟨m, hm, hsite⟩ := mem_sitesBelow_some.mp hbelow
        rcases ih m hm statement before site hsite with ⟨hstatement, hbefore, hreach⟩ | hplace
        · exact .inl ⟨hstatement, hbefore, .child hkind hm hreach⟩
        · exact .inr (hplace.of_child hm)
      | true =>
        -- Its children are statements, each of its own.
        rw [hkind] at hbelow
        obtain ⟨front, m, back, rfl, hsite⟩ := exists_of_mem_sitesBelow_none hbelow
        have hm : m ∈ front ++ m :: back := by simp
        rw [List.append_nil] at hsite
        rcases ih m hm m front.reverse site hsite with ⟨hstatement, hbefore, hreach⟩ | hplace
        · refine .inr ⟨_, Node.self_mem_preorder _, hkind, ⟨back, ?_⟩, hstatement ▸ hreach⟩
          rw [hstatement, hbefore, List.reverse_reverse]
          rfl
        · exact .inr (hplace.of_child hm)

/-- A call of a tree whose statement has something before it stands among the statements of
a node. -/
theorem inPlace_of_mem_sites {root : Node} {site : Site} (h : site ∈ sites root)
    (hbefore : site.before ≠ []) : site.InPlace root := by
  rcases sitesAt_cases root root [] site h with ⟨-, hnil, -⟩ | hplace
  · exact absurd hnil hbefore
  · exact hplace

/-! ## Routes of calls -/

/-- What a route has from the call that declares it: the method named by the member that is
called, the file, the description in the comment of the call and the line of the call. -/
structure Declares (source : List Char) (file : String) (site : Site) (r : Route) : Prop where
  method : ∃ callee property, site.call.child? .function = some callee ∧
    callee.child? .property = some property ∧
    verbOfMember (String.ofList (property.text source)) = some r.method
  sourceFile : r.sourceFile = file
  leadingComment : r.leadingComment = (leadingComment source site).bind describe
  line : r.line = site.call.span.startRow + 1

theorem declares_of_routeOfCall {source : List Char} {file : String} {site : Site} {r : Route}
    (h : routeOfCall source file site = some r) : Declares source file site r := by
  unfold routeOfCall at h
  simp only [Option.bind_eq_bind, Option.bind_eq_some_iff] at h
  obtain ⟨callee, hcallee, -, -, object, -, property, hproperty, -, -, -, -, method, hmethod,
    h⟩ := h
  obtain ⟨arguments, -, first, -, -, -, path, -, handler, -, -, -, hroute⟩ := h
  cases hroute
  exact ⟨⟨callee, property, hcallee, hproperty, hmethod⟩, rfl, rfl, rfl⟩

/-! ## Comments of routes -/

/-- The comment of a call is the sibling before its statement: a block comment that ends no
more than one row above the statement and does not begin on the last row of the sibling
before. -/
theorem exists_of_leadingComment {source : List Char} {site : Site} {text : String}
    (h : leadingComment source site = some text) :
    ∃ comment earlier, site.before = comment :: earlier ∧ comment.kind = .comment ∧
      ['/', '*'] <+: comment.text source ∧ text = String.ofList (comment.text source) ∧
      site.statement.span.startRow ≤ comment.span.stopRow + 1 ∧
      ∀ n ∈ earlier.head?, n.span.stopRow ≠ comment.span.startRow := by
  unfold leadingComment at h
  split at h
  · cases h
  · rename_i comment earlier hbefore
    extract_lets text trails at h
    split at h
    · rename_i hconds
      simp only [Bool.and_eq_true, beq_iff_eq, decide_eq_true_eq, Bool.not_eq_true'] at hconds
      obtain ⟨⟨⟨hkind, hprefix⟩, hrow⟩, htrails⟩ := hconds
      refine ⟨comment, earlier, hbefore, hkind, List.isPrefixOf_iff_prefix.mp hprefix,
        (Option.some.inj h).symm, hrow, fun n hn => ?_⟩
      cases earlier with
      | nil => cases hn
      | cons m earlier =>
        obtain rfl := Option.some.inj hn
        exact beq_eq_false_iff_ne.mp htrails
    · cases h

/-- A comment stands on rows of its own directly above a statement: it ends on the row before
that, and none of the siblings has a row in common with it. -/
structure DirectlyAbove (comment statement : Node) (siblings : List Node) : Prop where
  above : comment.span.stopRow + 1 = statement.span.startRow
  alone : ∀ n ∈ siblings,
    n.span.stopRow < comment.span.startRow ∨ comment.span.stopRow < n.span.startRow

section Rows

variable {source : List Char} {holder comment statement : Node} {earlier later : List Node}

/-- If the nearest sibling ends above the row on which a comment begins, all earlier ones
do. -/
theorem stopRow_lt_of_earlier (hplaced : WellPlaced source holder)
    (hchildren : holder.children = earlier.reverse ++ comment :: statement :: later)
    (hnear : ∀ n ∈ earlier.head?, n.span.stopRow ≠ comment.span.startRow) :
    ∀ n ∈ earlier, n.span.stopRow < comment.span.startRow := by
  have hrows := hplaced.rows
  rw [hchildren, List.pairwise_append, List.pairwise_reverse] at hrows
  obtain ⟨hearlier, -, hcross⟩ := hrows
  have hle : ∀ n ∈ earlier, n.span.stopRow ≤ comment.span.startRow := fun n hn =>
    hcross n (List.mem_reverse.mpr hn) comment List.mem_cons_self
  cases earlier with
  | nil => exact fun n hn => nomatch hn
  | cons near earlier =>
    have hlt : near.span.stopRow < comment.span.startRow :=
      Nat.lt_of_le_of_ne (hle near List.mem_cons_self) (hnear near rfl)
    have hmem : near ∈ holder.children := by rw [hchildren]; simp
    have hself := (hplaced.of_child hmem).placed.startRow_le_stopRow
    refine List.forall_mem_cons.mpr ⟨hlt, fun n hn => ?_⟩
    have hbefore := (List.pairwise_cons.mp hearlier).1 n hn
    omega

/-- A comment between siblings that all end above it and a statement that begins at most one
row below it is directly above the statement unless that begins on the row on which the
comment ends. -/
theorem directlyAbove_iff (hplaced : WellPlaced source holder)
    (hchildren : holder.children = earlier.reverse ++ comment :: statement :: later)
    (hearlier : ∀ n ∈ earlier, n.span.stopRow < comment.span.startRow)
    (hrow : statement.span.startRow ≤ comment.span.stopRow + 1) :
    DirectlyAbove comment statement (earlier.reverse ++ statement :: later) ↔
      comment.span.stopRow ≠ statement.span.startRow := by
  have hrows := hplaced.rows
  rw [hchildren, List.pairwise_append, List.pairwise_cons, List.pairwise_cons] at hrows
  obtain ⟨-, ⟨hcomment, hstatement, -⟩, -⟩ := hrows
  have hle : comment.span.stopRow ≤ statement.span.startRow := hcomment statement List.mem_cons_self
  constructor
  · intro h
    have := h.above
    omega
  · intro hne
    have habove : comment.span.stopRow + 1 = statement.span.startRow := by omega
    refine ⟨habove, fun n hn => ?_⟩
    rcases List.mem_append.mp hn with hn | hn
    · exact .inl (hearlier n (List.mem_reverse.mp hn))
    · refine .inr ?_
      rcases List.mem_cons.mp hn with rfl | hn
      · omega
      · have hmem : statement ∈ holder.children := by rw [hchildren]; simp
        have hself := (hplaced.of_child hmem).placed.startRow_le_stopRow
        have hafter := hstatement n hn
        omega

end Rows

/-- In a tree that stands well in its text, a route with a comment has it from the sibling
directly before the statement of its call. That is a block comment, and no sibling before it
has a row in common with it. It ends on the row before the statement, and no other sibling has
a row in common with it, exactly if the statement does not begin on the row on which the
comment ends. -/
theorem leadingComment_above {source : List Char} {root : Node} (hplaced : WellPlaced source root)
    {file : String} {site : Site} {r : Route} {d : String} (hsite : site ∈ sites root)
    (hroute : routeOfCall source file site = some r) (hd : r.leadingComment = some d) :
    r ∈ extractRoutes source file root ∧
      ∃ holder ∈ root.preorder, holder.kind.holdsStatements = true ∧
        ∃ earlier comment later,
          holder.children = earlier.reverse ++ comment :: site.statement :: later ∧
          site.before = comment :: earlier ∧ site.statement.Reaches site.call ∧
          comment.kind = .comment ∧ ['/', '*'] <+: comment.text source ∧
          describe (String.ofList (comment.text source)) = some d ∧
          (∀ n ∈ earlier, n.span.stopRow < comment.span.startRow) ∧
          (DirectlyAbove comment site.statement (earlier.reverse ++ site.statement :: later) ↔
            comment.span.stopRow ≠ site.statement.span.startRow) := by
  refine ⟨List.mem_filterMap.mpr ⟨site, hsite, hroute⟩, ?_⟩
  rw [(declares_of_routeOfCall hroute).leadingComment, Option.bind_eq_some_iff] at hd
  obtain ⟨text, htext, hd⟩ := hd
  obtain ⟨comment, earlier, hbefore, hkind, hprefix, rfl, hrow, hnear⟩ :=
    exists_of_leadingComment htext
  obtain ⟨holder, hholder, hholds, ⟨later, hchildren⟩, hreach⟩ :=
    inPlace_of_mem_sites hsite (by rw [hbefore]; exact List.cons_ne_nil comment earlier)
  rw [hbefore, List.reverse_cons, List.append_assoc, List.singleton_append] at hchildren
  have hwell := hplaced.of_mem hholder
  have hearlier := stopRow_lt_of_earlier hwell hchildren hnear
  exact ⟨holder, hholder, hholds, earlier, comment, later, hchildren, hbefore, hreach, hkind,
    hprefix, hd, hearlier, directlyAbove_iff hwell hchildren hearlier hrow⟩

/-- A route with a comment on the row above it. -/
def aboveText : List Char := "connect();\n/* Lists users */\napp.get('/users', list);".toList

theorem leadingComment_above_users :
    ∃ root, Source.parseAs .javascript aboveText = some root ∧ WellPlaced aboveText root ∧
      ∃ site ∈ sites root, ∃ r ∈ extractRoutes aboveText "" root,
        r.leadingComment = some "Lists users" ∧ ∃ holder ∈ root.preorder, ∃ front comment back,
          holder.children = front ++ comment :: site.statement :: back ∧
          DirectlyAbove comment site.statement (front ++ site.statement :: back) := by
  have hsites : (Source.parseAs .javascript aboveText).any (fun root =>
      decide (WellPlaced aboveText root) && (sites root).any fun site =>
        site.before.head?.any (·.span.stopRow != site.statement.span.startRow) &&
          (routeOfCall aboveText "" site).any (·.leadingComment == some "Lists users")) = true := by
    decide +kernel
  obtain ⟨root, hroot, hsites⟩ := (Option.any_eq_true _ _).mp hsites
  obtain ⟨hplaced, hsites⟩ := (Bool.and_eq_true _ _).mp hsites
  obtain ⟨site, hsite, hcall⟩ := List.any_eq_true.mp hsites
  obtain ⟨habove, hcall⟩ := (Bool.and_eq_true _ _).mp hcall
  obtain ⟨r, hr, hd⟩ := (Option.any_eq_true _ _).mp hcall
  have hplaced : WellPlaced aboveText root := of_decide_eq_true hplaced
  have hd : r.leadingComment = some "Lists users" := beq_iff_eq.mp hd
  obtain ⟨hmem, holder, hholder, -, earlier, comment, later, hchildren, hbefore, -, -, -, -, -,
    hiff⟩ := leadingComment_above hplaced hsite hr hd
  rw [hbefore] at habove
  exact ⟨root, hroot, hplaced, site, hsite, r, hmem, hd, holder, hholder, earlier.reverse, comment,
    later, hchildren, hiff.mpr (bne_iff_ne.mp habove)⟩

/-- A route with a comment on its own row. -/
def besideText : List Char := "/* Legacy */ app.get('/a', list);".toList

/-- The comment is not above the statement, but counts. -/
theorem comment_beside :
    ∃ root, Source.parseAs .javascript besideText = some root ∧ WellPlaced besideText root ∧
      ∃ site ∈ sites root, ∃ comment, site.before.head? = some comment ∧
        (∃ r ∈ extractRoutes besideText "" root, r.leadingComment = some "Legacy") ∧
        ∀ siblings, ¬DirectlyAbove comment site.statement siblings := by
  have hsites : (Source.parseAs .javascript besideText).any (fun root =>
      decide (WellPlaced besideText root) && (sites root).any fun site =>
        site.before.head?.any (·.span.stopRow == site.statement.span.startRow) &&
          (routeOfCall besideText "" site).any (·.leadingComment == some "Legacy")) = true := by
    decide +kernel
  obtain ⟨root, hroot, hsites⟩ := (Option.any_eq_true _ _).mp hsites
  obtain ⟨hplaced, hsites⟩ := (Bool.and_eq_true _ _).mp hsites
  obtain ⟨site, hsite, hcall⟩ := List.any_eq_true.mp hsites
  obtain ⟨hbeside, hcall⟩ := (Bool.and_eq_true _ _).mp hcall
  obtain ⟨comment, hcomment, hrow⟩ := (Option.any_eq_true _ _).mp hbeside
  obtain ⟨r, hr, hd⟩ := (Option.any_eq_true _ _).mp hcall
  refine ⟨root, hroot, of_decide_eq_true hplaced, site, hsite, comment, hcomment,
    ⟨r, List.mem_filterMap.mpr ⟨site, hsite, hr⟩, beq_iff_eq.mp hd⟩, fun siblings h => ?_⟩
  have habove := h.above
  rw [← beq_iff_eq.mp hrow] at habove
  exact Nat.succ_ne_self _ habove

end RouteDoc
