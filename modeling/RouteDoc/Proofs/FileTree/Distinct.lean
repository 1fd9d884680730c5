import Mathlib.Data.List.Nodup
import Mathlib.Data.List.Perm.Basic
import RouteDoc.Proofs.Entries
import RouteDoc.Proofs.FileTree.Path
import RouteDoc.Proofs.FileTree.Walked
import RouteDoc.Run.Discovery

/-!
# Files found more than once

A walk meets each entry once, but records files under their real paths. A file is
found again where a link leads to it.

* `WellFormed`: trees that a file system can hold;
* `nodup_taken`, `stands_of_mem_taken`: the entries that are taken differ, and are
  reached without links;
* `nodup_paths_iff`: the paths of the files found differ unless a link among them
  leads to another;
* `paths_repeat`: a file that is found twice.
-/

namespace RouteDoc

open FilePath (IsName)

namespace FileTree

/-- Whether a file system can hold a tree: the entries of a directory have
different names, each of which an entry can have. -/
inductive WellFormed : FileTree → Prop
  | intro {t : FileTree} (nodup : (t.entries.map (·.1)).Nodup)
      (names : ∀ e ∈ t.entries, IsName e.1) (below : ∀ e ∈ t.entries, WellFormed e.2) :
      WellFormed t

/-- What stands at some names, no link followed. -/
def nodeAt? (root : FileTree) (names : List String) : Option FileTree :=
  names.foldl (fun t name => t.bind (·.child? name)) (some root)

/-- Whether a link stands at some names. -/
def isLinkAt (root : FileTree) (names : List String) : Bool :=
  match root.nodeAt? names with
  | some (.link _) => true
  | _ => false

variable {root t u : FileTree} {name : String} {way : Way}

theorem WellFormed.child?_iff (h : t.WellFormed) :
    t.child? name = some u ↔ (name, u) ∈ t.entries := by
  obtain ⟨nodup, -, -⟩ := h
  exact (Entries.mem_iff_get? nodup).symm

theorem WellFormed.sorted (h : t.WellFormed) : t.sorted.WellFormed := by
  induction t using induction_on with
  | step t ih =>
    obtain ⟨nodup, names, below⟩ := h
    obtain ⟨-, hperm⟩ := sorted_entries t
    have hmem : ∀ e ∈ t.sorted.entries, ∃ e' ∈ t.entries, (e'.1, e'.2.sorted) = e := fun e he =>
      List.mem_map.mp (hperm.mem_iff.mp he)
    refine ⟨?_, fun e he => ?_, fun e he => ?_⟩
    · have hnames := hperm.map (·.1)
      rw [List.map_map] at hnames
      exact hnames.nodup_iff.mpr nodup
    · obtain ⟨e', he', rfl⟩ := hmem e he
      exact names e' he'
    · obtain ⟨e', he', rfl⟩ := hmem e he
      exact ih e' he' (below e' he')

/-- Along a way all trees are such, and all names too. -/
theorem WellFormed.along (h : root.WellFormed) (hway : Settled root way.steps) :
    (way.target root).WellFormed ∧ ∀ n ∈ way.names, IsName n := by
  induction way with
  | nil => exact ⟨h, fun n hn => by cases hn⟩
  | cons e way ih =>
    obtain ⟨name, t⟩ := e
    obtain ⟨settled, -, hchild, -⟩ := settled_steps_cons.mp hway
    obtain ⟨htarget, hnames⟩ := ih settled
    have hmem := htarget.child?_iff.mp hchild
    obtain ⟨-, names, below⟩ := htarget
    refine ⟨below _ hmem, fun n hn => ?_⟩
    rw [Way.names_cons, List.mem_append, List.mem_singleton] at hn
    rcases hn with hn | rfl
    · exact hnames n hn
    · exact names _ hmem

theorem nodeAt_names {done : Steps} (h : Settled root done) :
    root.nodeAt? done.names = done.target root := by
  induction h with
  | nil => rfl
  | cons settled _ _ ih =>
    rw [nodeAt?] at ih ⊢
    rw [Steps.names_cons, List.foldl_append, ih]
    rfl

end FileTree

open FileTree (Way WellFormed Settled)

/-! ## The entries that are taken -/

/-- An entry of a directory that is reached without links, itself no directory. -/
structure Stands (root : FileTree) (way : Way) (name : String) (u : FileTree)
    (entry : FilePath) : Prop where
  settled : Settled root way.steps
  child : (way.target root).child? name = some u
  isName : IsName name
  not_directory : u.isDirectory = false
  eq : entry = ⟨"/", way.names ++ [name]⟩

/-- What is taken of one entry: what is taken below it if it is a directory that is
entered, or the entry itself. -/
def takenOf (enters : String → Bool) (takes : FilePath → Bool) (path : FilePath)
    (e : String × FileTree) : List FilePath :=
  if e.2.isDirectory then
    if enters e.1 then taken enters takes (path.join ⟨"", [e.1]⟩) e.2 else []
  else if takes (path.join ⟨"", [e.1]⟩) then [path.join ⟨"", [e.1]⟩] else []

section Taken

variable {enters : String → Bool} {takes : FilePath → Bool} {root t : FileTree} {way : Way}
  {path entry : FilePath}

theorem takenAmong_eq (path : FilePath) (entries : List (String × FileTree)) :
    takenAmong takes path entries = entries.flatMap fun e =>
      if !e.2.isDirectory && takes (path.join ⟨"", [e.1]⟩) then [path.join ⟨"", [e.1]⟩]
      else [] := by
  induction entries with
  | nil => rfl
  | cons e rest ih =>
    rw [takenAmong, List.filter_cons, List.flatMap_cons, ← ih]
    cases e.2.isDirectory with
    | true => rfl
    | false =>
      rw [Bool.not_false, if_pos rfl, Bool.true_and, List.map_cons, List.filter_cons]
      cases takes (path.join ⟨"", [e.1]⟩) <;> rfl

/-- What is taken comes from the entries one by one, in another order. -/
theorem taken_perm (path : FilePath) (entries : List (String × FileTree)) :
    (taken enters takes path (.directory entries)).Perm
      (entries.flatMap (takenOf enters takes path)) := by
  have hparts : ∀ e : String × FileTree, takenOf enters takes path e =
      (if e.2.isDirectory && enters e.1 then taken enters takes (path.join ⟨"", [e.1]⟩) e.2
        else []) ++
      (if !e.2.isDirectory && takes (path.join ⟨"", [e.1]⟩) then [path.join ⟨"", [e.1]⟩]
        else []) := by
    intro e
    rw [takenOf]
    cases e.2.isDirectory with
    | true =>
      rw [if_pos rfl, Bool.true_and, Bool.not_true, Bool.false_and, if_neg Bool.false_ne_true,
        List.append_nil]
    | false => rfl
  rw [taken, takenBelow_eq, takenAmong_eq, List.flatMap_congr fun e _ => hparts e]
  exact List.flatMap_append_perm entries _ _

theorem mem_taken {entries : List (String × FileTree)} :
    entry ∈ taken enters takes path (.directory entries) ↔
      ∃ e ∈ entries, entry ∈ takenOf enters takes path e := by
  rw [(taken_perm path entries).mem_iff, List.mem_flatMap]

theorem isDirectory_sorted (t : FileTree) : t.sorted.isDirectory = t.isDirectory := by
  cases t <;> rfl

/-- What is taken in and below a directory is an entry, not a directory, of one
reached without links. -/
theorem stands_of_mem_taken (hroot : root.WellFormed) (hway : Settled root way.steps)
    (ht : way.target root = t) (h : entry ∈ taken enters takes ⟨"/", way.names⟩ t.sorted) :
    ∃ way name u, Stands root way name u entry := by
  induction t using FileTree.induction_on generalizing way with
  | step t ih =>
    obtain ⟨-, hperm⟩ := FileTree.sorted_entries t
    obtain ⟨hwell, -⟩ := hroot.along hway
    rw [ht] at hwell
    -- An entry of the sorted directory is one of the directory, sorted in itself.
    have hentry : ∀ e ∈ t.sorted.entries, ∃ u, e.2 = u.sorted ∧ (e.1, u) ∈ t.entries ∧
        (way.target root).child? e.1 = some u ∧ IsName e.1 := by
      intro e he
      obtain ⟨⟨name, u⟩, hu, rfl⟩ := List.mem_map.mp (hperm.mem_iff.mp he)
      have hchild := hwell.child?_iff.mpr hu
      obtain ⟨-, names, -⟩ := hwell
      exact ⟨u, rfl, hu, ht ▸ hchild, names (name, u) hu⟩
    cases hs : t.sorted with
    | directory entries =>
      rw [hs] at h hentry
      obtain ⟨e, he, h⟩ := mem_taken.mp h
      obtain ⟨u, hu, hmem, hchild, hname⟩ := hentry e he
      rw [takenOf, hu, isDirectory_sorted] at h
      split at h
      · rename_i hdir
        split at h
        · have hlink : ∀ target, u ≠ .link target := by
            rintro target rfl
            cases hdir
          have hway' : Settled root (Way.steps ((e.1, u) :: way)) :=
            FileTree.settled_steps_cons.mpr ⟨hway, hname.2.2.2, hchild, hlink⟩
          refine ih (e.1, u) hmem hway' rfl ?_
          rw [Way.names_cons]
          exact h
        · cases h
      · rename_i hdir
        split at h
        · exact ⟨way, e.1, u, hway, hchild, hname, Bool.eq_false_iff.mpr hdir,
            List.mem_singleton.mp h⟩
        · cases h
    | sealed _ | file _ | closed _ | link _ =>
      rw [hs] at h
      cases h

/-- What is taken of an entry is the entry, or stands below it if what is taken
below a directory does. -/
theorem prefix_of_mem_takenOf {e : String × FileTree}
    (hbelow : ∀ path, entry ∈ taken enters takes path e.2 → path.names <+: entry.names)
    (h : entry ∈ takenOf enters takes path e) : path.names ++ [e.1] <+: entry.names := by
  rw [takenOf] at h
  split at h
  · split at h
    · exact hbelow _ h
    · cases h
  · split at h
    · rw [List.mem_singleton.mp h]
      exact List.prefix_refl _
    · cases h

theorem prefix_of_mem_taken (path : FilePath) (h : entry ∈ taken enters takes path t) :
    path.names <+: entry.names := by
  induction t using FileTree.induction_on generalizing path with
  | step t ih =>
    cases t with
    | directory entries =>
      obtain ⟨e, he, h⟩ := mem_taken.mp h
      exact (List.prefix_append _ _).trans (prefix_of_mem_takenOf (ih e he) h)
    | sealed _ | file _ | closed _ | link _ => cases h

/-- What is taken differs where the entries of each directory do. -/
theorem nodup_taken (h : t.WellFormed) : (taken enters takes path t).Nodup := by
  induction t using FileTree.induction_on generalizing path with
  | step t ih =>
    cases t with
    | directory entries =>
      obtain ⟨nodup, -, below⟩ := h
      rw [(taken_perm path entries).nodup_iff, List.nodup_flatMap]
      refine ⟨fun e he => ?_, (List.pairwise_map.mp nodup).imp fun {a b} hne entry ha hb => hne ?_⟩
      · rw [takenOf]
        split
        · split
          · exact ih e he (below e he)
          · exact List.nodup_nil
        · split
          · exact List.nodup_singleton _
          · exact List.nodup_nil
      · -- An entry lies below one name of a directory only.
        have hsame : path.names ++ [a.1] = path.names ++ [b.1] :=
          (List.prefix_of_prefix_length_le (prefix_of_mem_takenOf prefix_of_mem_taken ha)
            (prefix_of_mem_takenOf prefix_of_mem_taken hb) (by simp)).eq_of_length (by simp)
        exact List.singleton_inj.mp (List.append_cancel_left hsame)
    | sealed _ | file _ | closed _ | link _ => exact List.nodup_nil

end Taken

namespace Stands

variable {root u : FileTree} {way : Way} {name : String} {entry : FilePath}
  (h : Stands root way name u entry)
include h

theorem nodeAt?_eq : root.nodeAt? entry.names = some u := by
  have hnames : entry.names = way.names ++ [name] := by rw [h.eq]
  have hnode := FileTree.nodeAt_names h.settled
  rw [Way.names_steps, Way.target_steps, FileTree.nodeAt?] at hnode
  rw [hnames, FileTree.nodeAt?, List.foldl_append, hnode]
  exact h.child

/-- An entry that is no link is its own real path. -/
theorem realPath_eq (hlink : root.isLinkAt entry.names = false) (here : FilePath) :
    root.realPath here entry = some entry := by
  have hnone : ∀ target, u ≠ .link target := by
    rintro target rfl
    rw [FileTree.isLinkAt, h.nodeAt?_eq] at hlink
    cases hlink
  have hsettled : Settled root (Way.steps ((name, u) :: way)) :=
    FileTree.settled_steps_cons.mpr ⟨h.settled, h.isName.2.2.2, h.child, hnone⟩
  have hsettle := FileTree.settle_names hsettled FileTree.maxLinks
  rw [Way.names_steps, Way.names_cons] at hsettle
  rw [h.eq, FileTree.realPath, FileTree.fromRoot_real, hsettle]
  rfl

end Stands

/-! ## The files of a walk -/

section Walk

variable {tree : FileTree} {o : ScanOptions} {here path root : FilePath}
  (hwell : tree.WellFormed) (hroot : tree.realPath here path = some root)
include hwell hroot

/-- What is taken from a real path on: entries that differ and are reached without
links. -/
theorem takenFrom_spec : (takenFrom tree o root).Nodup ∧
    ∀ entry ∈ takenFrom tree o root, ∃ way name u, Stands tree way name u entry := by
  rw [takenFrom]
  cases hlookup : tree.lookup root root with
  | error fault => exact ⟨List.nodup_nil, fun entry h => by cases h⟩
  | ok way =>
    obtain ⟨rfl, hsettled⟩ := FileTree.settled_of_realPath hroot hlookup
    obtain ⟨htarget, -⟩ := hwell.along hsettled
    exact ⟨nodup_taken htarget.sorted, fun entry h => stands_of_mem_taken hwell hsettled rfl h⟩

omit hroot in
/-- The names of the real path of an entry that is taken are such as entries can
have. -/
theorem exists_names_of_takes {entry : FilePath}
    (h : WalkFrame.takes ⟨tree, o, root⟩ entry = true) :
    ∃ names, tree.realPath root entry = some ⟨"/", names⟩ ∧ ∀ name ∈ names, IsName name := by
  obtain ⟨way, hway, -⟩ := WalkFrame.exists_lookup h
  obtain ⟨-, hnames⟩ := hwell.along (FileTree.settled_of_lookup hway)
  exact ⟨_, FileTree.realPath_of_lookup hway, hnames⟩

omit hroot in
/-- The real path of an entry that is taken is read back from its text. -/
theorem exists_realPath_of_takes {entry : FilePath}
    (h : WalkFrame.takes ⟨tree, o, root⟩ entry = true) :
    ∃ real, tree.realPath root entry = some real ∧ FilePath.ofText real.text = real := by
  obtain ⟨names, hreal, hnames⟩ := exists_names_of_takes hwell h
  exact ⟨_, hreal, FilePath.ofText_text hnames⟩

end Walk

/-- The entries of the files that a walk finds, in the order in which it meets
them. -/
def keptFrom (tree : FileTree) (o : ScanOptions) (root : FilePath) : List FilePath :=
  (takenFrom tree o root).take o.maxFiles.toNat

/-- The files that a walk finds are those in their entries. -/
theorem files_perm (tree : FileTree) {o : ScanOptions} (root : FilePath) (hmax : 1 ≤ o.maxFiles) :
    ((walk tree o root).files.map some).Perm
      ((keptFrom tree o root).map (WalkFrame.resolved ⟨tree, o, root⟩)) := by
  rw [walk_eq hmax, keptFrom, List.map_take, map_resolved_takenFrom, ← List.map_take]
  exact (List.mergeSort_perm _ _).map _

theorem mem_files_iff {tree : FileTree} {o : ScanOptions} {root : FilePath} (hmax : 1 ≤ o.maxFiles)
    {c : Candidate} :
    c ∈ (walk tree o root).files ↔
      ∃ entry ∈ keptFrom tree o root, WalkFrame.resolved ⟨tree, o, root⟩ entry = some c := by
  rw [← List.mem_map, ← (files_perm tree root hmax).mem_iff]
  simp only [List.mem_map, Option.some.injEq, exists_eq_right]

/-- A file that a walk finds has an absolute path, and the extension of that. -/
theorem exists_names_of_mem_files {tree : FileTree} {o : ScanOptions} {root : FilePath}
    (hwell : tree.WellFormed) (hmax : 1 ≤ o.maxFiles) {c : Candidate}
    (hc : c ∈ (walk tree o root).files) :
    ∃ names, (∀ name ∈ names, IsName name) ∧ c.path = (FilePath.mk "/" names).text ∧
      c.extension = Text.lower (FilePath.mk "/" names).extension := by
  obtain ⟨entry, hentry, hresolved⟩ := (mem_files_iff hmax).mp hc
  have htakes := takes_of_mem_takenFrom (List.mem_of_mem_take hentry)
  obtain ⟨names, hreal, hnames⟩ := exists_names_of_takes hwell htakes
  obtain ⟨real, t, hreal', -, -, hfile⟩ := WalkFrame.exists_resolved htakes
  obtain rfl : _ = real := Option.some.inj (hreal.symm.trans hreal')
  obtain rfl : _ = c := Option.some.inj (hfile.symm.trans hresolved)
  exact ⟨names, hnames, rfl, rfl⟩

/-- The files that a walk finds stand under the real paths of their entries. -/
theorem paths_perm (tree : FileTree) {o : ScanOptions} (root : FilePath) (hmax : 1 ≤ o.maxFiles) :
    (((walk tree o root).files.map (·.path)).map some).Perm
      ((keptFrom tree o root).map fun e => (tree.realPath root e).map FilePath.text) := by
  have hpath : ∀ e ∈ keptFrom tree o root,
      (WalkFrame.resolved ⟨tree, o, root⟩ e).map (·.path) =
        (tree.realPath root e).map FilePath.text := by
    intro e he
    obtain ⟨real, t, hreal, -, -, hresolved⟩ :=
      WalkFrame.exists_resolved (takes_of_mem_takenFrom (List.mem_of_mem_take he))
    rw [hresolved, hreal]
    rfl
  have hperm := (files_perm tree root hmax).map (Option.map Candidate.path)
  rw [List.map_map, List.map_map] at hperm
  rwa [← List.map_congr_left hpath, List.map_map]

theorem path_classify (registry : Framework.Registry) (frameworks : List String) (path : String)
    (content : List Char) : (Framework.classify registry frameworks path content).path = path := by
  unfold Framework.classify
  extract_lets top clear generic
  split
  · rfl
  · split
    · rfl
    · cases top with
      | none => dsimp only; split <;> rfl
      | some s =>
        dsimp only
        split
        · rfl
        · split <;> rfl

theorem path_inspect (tree : FileTree) (registry : Framework.Registry) (o : ScanOptions)
    (root : FilePath) (c : Candidate) :
    (inspect tree registry o root c).classification.path = (FilePath.ofText c.path).text := by
  have hclassify : ∀ path, (classifyFile tree root registry o path).1.path = path.text := by
    intro path
    rw [classifyFile]
    split
    · rfl
    · exact path_classify ..
  unfold inspect
  extract_lets path
  have hpath := hclassify path
  split
  · rename_i hverdict
    rw [hverdict] at hpath
    split <;> exact hpath
  · rename_i hverdict
    rw [hverdict] at hpath
    exact hpath

/-- A run reads the files that the walk finds. -/
theorem paths_of_discover {tree : FileTree} {here path root : FilePath}
    {registry : Framework.Registry} {o : ScanOptions} {found : Discovery}
    (hroot : tree.realPath here path = some root)
    (hback : ∀ c ∈ (walk tree o root).files, (FilePath.ofText c.path).text = c.path)
    (h : discover tree here registry o path = .ok found) :
    found.classifications.map (·.path) = (walk tree o root).files.map (·.path) := by
  unfold discover startOf at h
  rw [hroot] at h
  split at h
  · cases h
  · split at h
    · cases h
    · split at h
      · obtain rfl := Except.ok.inj h
        dsimp only [Discovery.ofFindings, Option.getD_some]
        rw [List.map_map, List.map_map]
        refine List.map_congr_left fun c hc => ?_
        rw [Function.comp_apply, Function.comp_apply, path_inspect, hback c hc]
      · cases h

/-- In a tree that a file system can hold, the entries of the files that a walk
finds differ, and those that are no links stand under their own paths. The paths
of the files found are the real paths of these entries: they differ exactly where
no link among them leads to the file of another. A run reads the files under just
these paths. -/
theorem nodup_paths_iff {tree : FileTree} {o : ScanOptions} {here path root : FilePath}
    (hwell : tree.WellFormed) (hmax : 1 ≤ o.maxFiles)
    (hroot : tree.realPath here path = some root) :
    let kept := keptFrom tree o root
    let paths := (walk tree o root).files.map (·.path)
    kept.Nodup ∧
      (∀ entry ∈ kept, tree.isLinkAt entry.names = false →
        tree.realPath root entry = some entry) ∧
      (paths.map some).Perm (kept.map fun e => (tree.realPath root e).map FilePath.text) ∧
      (paths.Nodup ↔ ∀ link ∈ kept, tree.isLinkAt link.names = true → ∀ entry ∈ kept,
        tree.realPath root link = tree.realPath root entry → link = entry) ∧
      ∀ registry found, discover tree here registry o path = .ok found →
        found.classifications.map (·.path) = paths := by
  intro kept paths
  obtain ⟨hnodup, hstands⟩ := takenFrom_spec (o := o) hwell hroot
  have hmem : ∀ entry ∈ kept, entry ∈ takenFrom tree o root := fun entry => List.mem_of_mem_take
  have hown : ∀ entry ∈ kept, tree.isLinkAt entry.names = false →
      tree.realPath root entry = some entry := by
    intro entry hentry hlink
    obtain ⟨way, name, u, h⟩ := hstands entry (hmem entry hentry)
    exact h.realPath_eq hlink root
  have hkept : kept.Nodup := hnodup.sublist (List.take_sublist _ _)
  have hreal : ∀ entry ∈ kept, ∃ real, tree.realPath root entry = some real ∧
      FilePath.ofText real.text = real := fun entry hentry =>
    exists_realPath_of_takes hwell (takes_of_mem_takenFrom (hmem entry hentry))
  have hperm := paths_perm tree root hmax
  refine ⟨hkept, hown, hperm, ?_, fun registry found hfound => ?_⟩
  · rw [← List.nodup_map_iff fun _ _ => Option.some.inj, hperm.nodup_iff,
      List.nodup_map_iff_inj_on hkept]
    constructor
    · intro h link hlink _ entry hentry heq
      exact h link hlink entry hentry (heq ▸ rfl)
    · intro h a ha b hb htext
      have heq : tree.realPath root a = tree.realPath root b := by
        obtain ⟨reala, hreala, hbacka⟩ := hreal a ha
        obtain ⟨realb, hrealb, hbackb⟩ := hreal b hb
        rw [hreala, hrealb, Option.map_some, Option.map_some, Option.some.injEq] at htext
        rw [hreala, hrealb, ← hbacka, ← hbackb, htext]
      cases hlink : tree.isLinkAt a.names with
      | true => exact h a ha hlink b hb heq
      | false =>
        cases hlink' : tree.isLinkAt b.names with
        | true => exact (h b hb hlink' a ha heq.symm).symm
        | false =>
          rw [hown a ha hlink, hown b hb hlink'] at heq
          exact Option.some.inj heq
  · refine paths_of_discover hroot (fun c hc => ?_) hfound
    have hc' : some c.path ∈ paths.map some := List.mem_map_of_mem (List.mem_map_of_mem hc)
    obtain ⟨e, he, heq⟩ := List.mem_map.mp (hperm.mem_iff.mp hc')
    obtain ⟨real, hreal, hback⟩ := hreal e he
    rw [hreal, Option.map_some, Option.some.injEq] at heq
    rw [← heq, hback]

theorem wellFormed_linkedTree : linkedTree.WellFormed := by
  have hfile : (FileTree.file ⟨#[120]⟩).WellFormed :=
    .intro (by decide) (by decide) (List.forall_mem_nil _)
  have hlink : (FileTree.link "api/a.js").WellFormed :=
    .intro (by decide) (by decide) (List.forall_mem_nil _)
  have hapi : (FileTree.directory [("a.js", .file ⟨#[120]⟩)]).WellFormed :=
    .intro (by decide) (by decide) (List.forall_mem_singleton.mpr hfile)
  exact .intro (by decide) (by decide)
    (List.forall_mem_cons.mpr ⟨hapi, List.forall_mem_singleton.mpr hlink⟩)

/-- A tree with a file, and a link to another in a directory that no walk enters. -/
def builtTree : FileTree :=
  .directory [("a.js", .file ⟨#[120]⟩), ("b.js", .link "dist/c.js"),
    ("dist", .directory [("c.js", .file ⟨#[120]⟩)])]

theorem wellFormed_builtTree : builtTree.WellFormed := by
  have hfile : (FileTree.file ⟨#[120]⟩).WellFormed :=
    .intro (by decide) (by decide) (List.forall_mem_nil _)
  have hlink : (FileTree.link "dist/c.js").WellFormed :=
    .intro (by decide) (by decide) (List.forall_mem_nil _)
  have hdist : (FileTree.directory [("c.js", .file ⟨#[120]⟩)]).WellFormed :=
    .intro (by decide) (by decide) (List.forall_mem_singleton.mpr hfile)
  exact .intro (by decide) (by decide)
    (List.forall_mem_cons.mpr ⟨hfile, List.forall_mem_cons.mpr ⟨hlink,
      List.forall_mem_singleton.mpr hdist⟩⟩)

/-- The way to the file that the link leads to. -/
def builtWay : FileTree.Way :=
  [("c.js", .file ⟨#[120]⟩), ("dist", .directory [("c.js", .file ⟨#[120]⟩)])]

theorem lookup_builtTree :
    builtTree.lookup top ⟨"/", ["a.js"]⟩ = .ok [("a.js", .file ⟨#[120]⟩)] ∧
      builtTree.lookup top ⟨"/", ["b.js"]⟩ = .ok builtWay := by
  have htarget : FilePath.ofText "dist/c.js" = ⟨"", ["dist", "c.js"]⟩ := by decide
  have hchild : (FileTree.Way.target [] builtTree).child? "b.js" = some (.link "dist/c.js") := rfl
  refine ⟨lookup_file rfl rfl (by decide), ?_⟩
  rw [FileTree.lookup, FileTree.fromRoot_real, FileTree.maxLinks,
    FileTree.follow_link [] (by decide) hchild, htarget]
  change builtTree.follow 39 [] ["dist", "c.js"] = _
  rw [FileTree.follow_cons ["c.js"] (by decide) (t := .directory _) rfl (by simp),
    FileTree.follow_cons [] (by decide) (t := .file _) rfl (by simp), FileTree.follow]
  rfl

theorem keptFrom_builtTree :
    keptFrom builtTree {} top = [⟨"/", ["a.js"]⟩, ⟨"/", ["b.js"]⟩] := by
  obtain ⟨hfile, hlink⟩ := lookup_builtTree
  have htakes : ∀ path t way, builtTree.lookup top path = .ok ((t, .file ⟨#[120]⟩) :: way) →
      acceptsName {} path = true → WalkFrame.takes ⟨builtTree, {}, top⟩ path = true := by
    intro path t way hlookup hname
    have hat : builtTree.at? top path = some (.file ⟨#[120]⟩) := by
      rw [FileTree.at?, hlookup]
      rfl
    exact WalkFrame.takes_of_at? hat rfl hname rfl rfl
  have hfile' := htakes _ _ _ hfile (by decide +kernel)
  have hlink' := htakes _ _ _ hlink (by decide +kernel)
  have henters : WalkFrame.enters ⟨builtTree, {}, top⟩ "dist" = false := by decide +kernel
  have hsorted : builtTree.sorted = builtTree := by
    rw [builtTree]
    simp only [FileTree.sorted, FileTree.sortedEach, List.mergeSort_singleton]
    rw [List.mergeSort_of_pairwise (by decide)]
  have htaken : takenFrom builtTree {} top = [⟨"/", ["a.js"]⟩, ⟨"/", ["b.js"]⟩] := by
    rw [takenFrom, lookup_top]
    change taken _ _ top builtTree.sorted = _
    rw [hsorted]
    change (if true && WalkFrame.enters ⟨builtTree, {}, top⟩ "dist" then
        List.filter (WalkFrame.takes ⟨builtTree, {}, top⟩) [⟨"/", ["dist", "c.js"]⟩] else []) ++ [] ++
      List.filter (WalkFrame.takes ⟨builtTree, {}, top⟩) [⟨"/", ["a.js"]⟩, ⟨"/", ["b.js"]⟩] = _
    rw [henters, List.filter_cons_of_pos hfile', List.filter_cons_of_pos hlink']
    rfl
  rw [keptFrom, htaken]
  rfl

/-- A file and one that a link leads to, which is found by the link only. -/
theorem nodup_paths_builtTree :
    builtTree.WellFormed ∧ 1 ≤ ({} : ScanOptions).maxFiles ∧
      builtTree.realPath top top = some top ∧
      (walk builtTree {} top).files.length = 2 ∧
      ((walk builtTree {} top).files.map (·.path)).Nodup := by
  have hmax : 1 ≤ ({} : ScanOptions).maxFiles := by decide
  obtain ⟨hfile, hlink⟩ := lookup_builtTree
  have hreal := FileTree.realPath_of_lookup hfile
  have hreal' := FileTree.realPath_of_lookup hlink
  obtain ⟨-, -, hperm, hnodup, -⟩ := nodup_paths_iff wellFormed_builtTree hmax (realPath_top _)
  refine ⟨wellFormed_builtTree, hmax, realPath_top _, ?_, hnodup.mpr ?_⟩
  · have hlength := hperm.length_eq
    rwa [keptFrom_builtTree, List.length_map, List.length_map] at hlength
  · rw [keptFrom_builtTree]
    -- The real paths of the two entries differ.
    have hne : builtTree.realPath top ⟨"/", ["a.js"]⟩ ≠ builtTree.realPath top ⟨"/", ["b.js"]⟩ := by
      rw [hreal, hreal']
      decide
    intro link hlink _ entry hentry hsame
    rw [List.mem_pair] at hlink hentry
    rcases hlink with rfl | rfl <;> rcases hentry with rfl | rfl
    · rfl
    · exact absurd hsame hne
    · exact absurd hsame.symm hne
    · rfl

/-- The file that a link leads to is found under its own name and again by the
link. -/
theorem paths_repeat :
    linkedTree.WellFormed ∧ linkedTree.realPath top top = some top ∧
      (walk linkedTree {} top).files.map (·.path) = ["/api/a.js", "/api/a.js"] ∧
      ¬((walk linkedTree {} top).files.map (·.path)).Nodup := by
  have hmax : 1 ≤ ({} : ScanOptions).maxFiles := by decide
  have hpaths : (walk linkedTree {} top).files.map (·.path) = ["/api/a.js", "/api/a.js"] := by
    rw [walk_eq hmax, filesFrom_linkedTree]
    change ([linkedFile, linkedFile].mergeSort _).map _ = _
    rw [List.mergeSort_of_pairwise (by decide)]
    rfl
  refine ⟨wellFormed_linkedTree, realPath_top _, hpaths, ?_⟩
  rw [hpaths]
  decide

end RouteDoc
