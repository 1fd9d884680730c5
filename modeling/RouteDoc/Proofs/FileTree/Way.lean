import RouteDoc.FileTree.Basic

/-!
# Ways without links

The names of a real path lead from one thing to the next without links and double
points, as far as things exist.

* `Settled`: ways of this kind;
* `exists_settled`, `settle_settled`, `follow_settled`: settling a path gives the
  names of such a way, and these lead along it;
* `realPath_of_lookup`, `lookup_realPath`: a path that leads somewhere has a real
  path, which leads there too.
-/

namespace RouteDoc

namespace FileTree

/-- Names on the way to a place, innermost first, each with what stands there if
anything does. -/
abbrev Steps := List (String × Option FileTree)

namespace Steps

/-- The names, outermost first. -/
def names (done : Steps) : List String := done.reverse.map (·.1)

/-- What stands at the end. -/
def target (done : Steps) (root : FileTree) : Option FileTree :=
  (done.head?.map (·.2)).getD (some root)

theorem names_cons (e : String × Option FileTree) (done : Steps) :
    names (e :: done) = names done ++ [e.1] := by
  rw [names, names, List.reverse_cons, List.map_append]
  rfl

end Steps

/-- Steps each of which leads to the entry of its name, if there is one, and to no
link. -/
inductive Settled (root : FileTree) : Steps → Prop
  | nil : Settled root []
  | cons {done : Steps} {name : String} (settled : Settled root done) (name_ne : name ≠ "..")
      (no_link : ∀ target, (done.target root).bind (·.child? name) ≠ some (.link target)) :
      Settled root ((name, (done.target root).bind (·.child? name)) :: done)

theorem settled_cons {root : FileTree} {e : String × Option FileTree} {done : Steps} :
    Settled root (e :: done) ↔ Settled root done ∧ e.1 ≠ ".." ∧
      e.2 = (done.target root).bind (·.child? e.1) ∧ ∀ target, e.2 ≠ some (.link target) := by
  constructor
  · intro h
    cases h with
    | cons settled hname hlink => exact ⟨settled, hname, rfl, hlink⟩
  · obtain ⟨name, t⟩ := e
    rintro ⟨settled, hname, ht, hlink⟩
    obtain rfl : t = (done.target root).bind (·.child? name) := ht
    exact .cons settled hname hlink

/-- A way as steps to what exists. -/
def Way.steps (way : Way) : Steps := way.map fun e => (e.1, some e.2)

theorem Way.names_steps (way : Way) : way.steps.names = way.names := by
  rw [Steps.names, Way.names, Way.steps, ← List.map_reverse, List.map_map]
  rfl

theorem Way.names_cons (name : String) (t : FileTree) (way : Way) :
    Way.names ((name, t) :: way) = way.names ++ [name] := by
  rw [Way.names, Way.names, List.reverse_cons, List.map_append]
  rfl

theorem Way.target_steps (way : Way) (root : FileTree) :
    way.steps.target root = some (way.target root) := by
  cases way <;> rfl

theorem isDirectory_of_child? {t u : FileTree} {name : String} (h : t.child? name = some u) :
    t.isDirectory = true := by
  cases t with
  | directory _ | sealed _ => rfl
  | file _ | closed _ | link _ => cases h

variable {root : FileTree}

theorem Settled.drop {done : Steps} (h : Settled root done) : Settled root (done.drop 1) := by
  cases h with
  | nil => exact .nil
  | cons settled _ _ => exact settled

/-! ## Settling -/

section Settle

variable {links : Nat} {done : Steps} {name : String}

theorem settle_cons (rest : List String) (hname : name ≠ "..")
    (hlink : ∀ target, (done.target root).bind (·.child? name) ≠ some (.link target)) :
    settle root links done (name :: rest) =
      settle root links ((name, (done.target root).bind (·.child? name)) :: done) rest := by
  rw [settle.eq_def]
  simp only [beq_iff_eq, if_neg hname]
  split
  · rename_i target he
    exact absurd he (hlink target)
  · rfl

theorem settle_link {target : String} (rest : List String) (hname : name ≠ "..")
    (hlink : (done.target root).bind (·.child? name) = some (.link target)) :
    settle root (links + 1) done (name :: rest) =
      settle root links (if (FilePath.ofText target).isAbsolute then [] else done)
        ((FilePath.ofText target).names ++ rest) := by
  rw [Steps.target] at hlink
  rw [settle.eq_def]
  simp only [beq_iff_eq, if_neg hname, hlink]

end Settle

/-- Settling a path gives the names of settled steps. -/
theorem exists_settled {links : Nat} {done : Steps} {names found : List String}
    (hdone : Settled root done) (h : settle root links done names = some found) :
    ∃ done', Settled root done' ∧ found = done'.names := by
  fun_induction settle root links done names with
  | case1 links done => exact ⟨done, hdone, (Option.some.inj h).symm⟩
  | case2 links done name rest hname ih => exact ih hdone.drop h
  | case3 => cases h
  | case4 done name rest hname current target hlink links p ih =>
    refine ih ?_ h
    split
    · exact .nil
    · exact hdone
  | case5 links done name rest hname current hlink ih =>
    exact ih (.cons hdone (by simpa using hname) hlink) h

/-- The names of settled steps lead along them. -/
theorem settle_settled {done : Steps} (h : Settled root done) (links : Nat) (rest : List String) :
    settle root links [] (done.names ++ rest) = settle root links done rest := by
  induction h generalizing rest with
  | nil => rfl
  | cons settled hname hlink ih =>
    rw [Steps.names_cons, List.append_assoc, ih, List.cons_append, List.nil_append,
      settle_cons rest hname hlink]

/-- A path that is settled stays as it is. -/
theorem settle_names {done : Steps} (h : Settled root done) (links : Nat) :
    settle root links [] done.names = some done.names := by
  have hsettle := settle_settled h links []
  rwa [List.append_nil, settle] at hsettle

/-- Where following a path leads somewhere, settling it gives the names on the
way. -/
theorem settle_of_follow {links : Nat} {way last : Way} {names : List String}
    (h : follow root links way names = .ok last) :
    settle root links way.steps names = some last.names := by
  fun_induction follow root links way names with
  | case1 links way =>
    obtain rfl := Except.ok.inj h
    rw [settle, ← Way.names_steps]
    rfl
  | case2 | case4 | case5 => cases h
  | case3 links way name rest hdir hname ih =>
    rw [settle, if_pos hname, ← ih h, Way.steps, Way.steps, List.map_drop]
  | case6 way name rest hdir hname target hlink links p ih =>
    have hchild : (way.steps.target root).bind (·.child? name) = some (.link target) := by
      rw [Way.target_steps, Option.bind_some, hlink]
    rw [settle_link rest (by simpa using hname) hchild, ← ih h]
    split <;> rfl
  | case7 links way name rest hdir hname t hlink hchild ih =>
    have ht : (way.steps.target root).bind (·.child? name) = some t := by
      rw [Way.target_steps, Option.bind_some, hchild]
    rw [settle_cons rest (by simpa using hname), ht]
    · exact ih h
    · intro target he
      exact hlink target (Option.some.inj (ht.symm.trans he))

/-! ## Following -/

section Follow

variable {links : Nat} {way : Way} {name : String}

theorem follow_cons {t : FileTree} (rest : List String) (hname : name ≠ "..")
    (hchild : (way.target root).child? name = some t) (hlink : ∀ target, t ≠ .link target) :
    follow root links way (name :: rest) = follow root links ((name, t) :: way) rest := by
  have hdir : (way.target root).isDirectory = true := isDirectory_of_child? hchild
  rw [follow.eq_def]
  simp only [hdir, Bool.not_true, Bool.false_eq_true, if_false, beq_iff_eq, if_neg hname, hchild]

theorem follow_up (rest : List String) (hdir : (way.target root).isDirectory = true) :
    follow root links way (".." :: rest) = follow root links (way.drop 1) rest := by
  rw [follow.eq_def]
  simp only [hdir, Bool.not_true, Bool.false_eq_true, if_false, beq_self_eq_true, if_true]

theorem follow_link {target : String} (rest : List String) (hname : name ≠ "..")
    (hchild : (way.target root).child? name = some (.link target)) :
    follow root (links + 1) way (name :: rest) =
      follow root links (if (FilePath.ofText target).isAbsolute then [] else way)
        ((FilePath.ofText target).names ++ rest) := by
  have hdir : (way.target root).isDirectory = true := isDirectory_of_child? hchild
  rw [follow.eq_def]
  simp only [hdir, Bool.not_true, Bool.false_eq_true, if_false, beq_iff_eq, if_neg hname, hchild]

theorem follow_missing (rest : List String) (hname : name ≠ "..")
    (hchild : (way.target root).child? name = none) (last : Way) :
    follow root links way (name :: rest) ≠ .ok last := by
  rw [follow.eq_def]
  simp only [beq_iff_eq, if_neg hname, hchild]
  split <;> exact nofun

end Follow

/-- The names of settled steps lead along them as long as there is something, and
nowhere once there is nothing. -/
theorem follow_settled {done : Steps} (h : Settled root done) {links : Nat} {last : Way}
    (rest : List String) (hlast : follow root links [] (done.names ++ rest) = .ok last) :
    ∃ way : Way, way.steps = done ∧ follow root links way rest = .ok last := by
  induction h generalizing rest with
  | nil => exact ⟨[], rfl, hlast⟩
  | @cons done name settled hname hlink ih =>
    rw [Steps.names_cons, List.append_assoc] at hlast
    obtain ⟨way, rfl, hway⟩ := ih _ hlast
    rw [Way.target_steps, Option.bind_some] at hlink ⊢
    cases hchild : (way.target root).child? name with
    | none => exact absurd hway (follow_missing rest hname hchild last)
    | some t =>
      refine ⟨(name, t) :: way, rfl, ?_⟩
      rw [← follow_cons rest hname hchild fun target he => hlink target (hchild.trans (he ▸ rfl))]
      exact hway

theorem settled_steps_cons {way : Way} {name : String} {t : FileTree} :
    Settled root (Way.steps ((name, t) :: way)) ↔ Settled root way.steps ∧ name ≠ ".." ∧
      (way.target root).child? name = some t ∧ ∀ target, t ≠ .link target := by
  rw [Way.steps, List.map_cons, ← Way.steps, settled_cons, Way.target_steps, Option.bind_some,
    eq_comm (a := some t)]
  simp only [ne_eq, Option.some.injEq]

/-- The names of a way without links lead along it. -/
theorem follow_steps {way : Way} (h : Settled root way.steps) (links : Nat)
    (rest : List String) :
    follow root links [] (way.names ++ rest) = follow root links way rest := by
  induction way generalizing rest with
  | nil => rfl
  | cons e way ih =>
    obtain ⟨name, t⟩ := e
    obtain ⟨settled, hname, hchild, hlink⟩ := settled_steps_cons.mp h
    rw [Way.names_cons, List.append_assoc, ih settled]
    exact follow_cons rest hname hchild hlink

/-- Following a path ends on a way without links. -/
theorem settled_of_follow {links : Nat} {way last : Way} {names : List String}
    (hway : Settled root way.steps) (h : follow root links way names = .ok last) :
    Settled root last.steps := by
  fun_induction follow root links way names with
  | case1 links way =>
    obtain rfl := Except.ok.inj h
    exact hway
  | case2 | case4 | case5 => cases h
  | case3 links way name rest hdir hname ih =>
    refine ih ?_ h
    rw [Way.steps, List.map_drop]
    exact hway.drop
  | case6 way name rest hdir hname target hlink links p ih =>
    refine ih ?_ h
    split
    · exact .nil
    · exact hway
  | case7 links way name rest hdir hname t hlink hchild ih =>
    exact ih (settled_steps_cons.mpr ⟨hway, by simpa using hname, hchild, hlink⟩) h

/-! ## Real paths -/

section Real

variable {here path : FilePath} {way : Way}

theorem fromRoot_real (here : FilePath) (names : List String) :
    fromRoot here ⟨"/", names⟩ = names := rfl

/-- A path that leads somewhere has a real path: the names on its way. -/
theorem realPath_of_lookup (h : root.lookup here path = .ok way) :
    root.realPath here path = some ⟨"/", way.names⟩ := by
  have hsettle : settle root maxLinks [] (fromRoot here path) = some way.names := settle_of_follow h
  rw [realPath, hsettle]
  rfl

theorem settled_of_lookup (h : root.lookup here path = .ok way) : Settled root way.steps :=
  have hstart : Settled root (Way.steps []) := .nil
  settled_of_follow hstart h

/-- The real path leads to the same place. -/
theorem lookup_names (h : root.lookup here path = .ok way) (here' : FilePath) :
    root.lookup here' ⟨"/", way.names⟩ = .ok way := by
  have hfollow := follow_steps (settled_of_lookup h) maxLinks []
  rw [List.append_nil] at hfollow
  rw [lookup, fromRoot_real, hfollow, follow]

/-- A real path leads along its own names, if it leads anywhere. -/
theorem settled_of_realPath {here' : FilePath} (hreal : root.realPath here path = some here')
    (h : root.lookup here' here' = .ok way) :
    here' = ⟨"/", way.names⟩ ∧ Settled root way.steps := by
  obtain ⟨names, hsettle, rfl⟩ := Option.map_eq_some_iff.mp hreal
  obtain ⟨done, hdone, rfl⟩ := exists_settled .nil hsettle
  rw [lookup, fromRoot_real, ← List.append_nil done.names] at h
  obtain ⟨way', rfl, hway'⟩ := follow_settled hdone [] h
  rw [follow] at hway'
  obtain rfl := Except.ok.inj hway'
  exact ⟨by rw [Way.names_steps], hdone⟩

end Real

end FileTree

/-- The root of a tree. -/
def top : FilePath := ⟨"/", []⟩

theorem lookup_top (t : FileTree) : t.lookup top top = .ok [] := by
  rw [FileTree.lookup, top, FileTree.fromRoot_real, FileTree.follow]

theorem realPath_top (t : FileTree) : t.realPath top top = some top :=
  FileTree.realPath_of_lookup (lookup_top t)

section File

variable {t u : FileTree} {name : String} (hchild : t.child? name = some u)
  (hfile : u.isFile = true) (hname : name ≠ "..")
include hchild hfile hname

theorem lookup_file : t.lookup top ⟨"/", [name]⟩ = .ok [(name, u)] := by
  have hlink : ∀ target, u ≠ .link target := by
    rintro target rfl
    cases hfile
  have hstep : t.follow FileTree.maxLinks [] [name] = t.follow FileTree.maxLinks [(name, u)] [] :=
    FileTree.follow_cons [] hname hchild hlink
  rw [FileTree.lookup, FileTree.fromRoot_real, hstep, FileTree.follow]

theorem at?_file : t.at? top ⟨"/", [name]⟩ = some u := by
  rw [FileTree.at?, lookup_file hchild hfile hname]
  rfl

theorem realPath_file : t.realPath top ⟨"/", [name]⟩ = some ⟨"/", [name]⟩ :=
  FileTree.realPath_of_lookup (lookup_file hchild hfile hname)

end File

end RouteDoc
