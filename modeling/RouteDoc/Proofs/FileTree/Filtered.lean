import RouteDoc.Proofs.FileTree.Distinct

/-!
# Files beyond the filter

A walk applies its filter to the entries it meets, but records files under their
real paths. A link with a suitable name may lead to a file that the filter rejects,
or to one outside the directory of the walk.

* `Passes`: the paths that the filter of a walk allows for;
* `passes_of_mem_takenFrom`: the entries that are taken are among them;
* `passes_files_iff`: the files found are among them unless a link leads elsewhere;
* `outside_not_passes`: a file that is found outside the directory of the walk.
-/

namespace RouteDoc

/-! ## The filter -/

/-- Whether the filter of a walk from `root` on allows for a file at a path: the
path lies below `root`, no directory between them is passed over, and the name of
the file has one of the extensions and is neither that of a test nor that of a file
that configures tools. -/
inductive Passes (o : ScanOptions) (root : FilePath) : FilePath → Prop
  | intro (directories : List String) (name : String)
      (entered : ∀ d ∈ directories, isIgnoredDirectory d o.excludedDirectories = false)
      (extension : Text.lower (FilePath.extensionOf name) ∈ o.extensions)
      (not_test : isTestName name = false) (not_tooling : isToolingName name = false) :
      Passes o root ⟨root.root, root.names ++ directories ++ [name]⟩

theorem FilePath.name_mk (root : String) (names : List String) (name : String) :
    (FilePath.mk root (names ++ [name])).name = name := by
  rw [FilePath.name, List.getLast?_concat, Option.getD_some]

theorem Passes.extension_mem {o : ScanOptions} {root path : FilePath} (h : Passes o root path) :
    Text.lower path.extension ∈ o.extensions := by
  cases h with
  | intro directories name entered extension not_test not_tooling =>
    rwa [FilePath.extension, FilePath.name_mk]

section Taken

variable {enters : String → Bool} {takes : FilePath → Bool} {t : FileTree} {path entry : FilePath}

/-- What is taken in and below a directory stands below directories that are
entered. -/
theorem exists_entered_of_mem_taken (h : entry ∈ taken enters takes path t) :
    ∃ directories name, entry = ⟨path.root, path.names ++ directories ++ [name]⟩ ∧
      ∀ d ∈ directories, enters d = true := by
  induction t using FileTree.induction_on generalizing path with
  | step t ih =>
    cases t with
    | directory entries =>
      obtain ⟨e, he, h⟩ := mem_taken.mp h
      rw [takenOf] at h
      split at h
      · split at h
        · rename_i henters
          obtain ⟨directories, name, rfl, hentered⟩ := ih e he h
          refine ⟨e.1 :: directories, name, ?_, List.forall_mem_cons.mpr ⟨henters, hentered⟩⟩
          change FilePath.mk path.root (path.names ++ [e.1] ++ directories ++ [name]) = _
          rw [List.append_assoc path.names, List.singleton_append]
        · cases h
      · split at h
        · obtain rfl := List.mem_singleton.mp h
          refine ⟨[], e.1, ?_, List.forall_mem_nil _⟩
          rw [List.append_nil]
          rfl
        · cases h
    | sealed _ | file _ | closed _ | link _ => cases h

end Taken

section Entries

variable {tree : FileTree} {o : ScanOptions} {root entry : FilePath}

theorem acceptsName_of_takes (h : WalkFrame.takes ⟨tree, o, root⟩ entry = true) :
    acceptsName o entry = true := by
  rw [WalkFrame.takes, accepts] at h
  simp only [Bool.and_eq_true] at h
  exact h.2.1.1

/-- The entries that are taken pass the filter. -/
theorem passes_of_mem_takenFrom (h : entry ∈ takenFrom tree o root) : Passes o root entry := by
  have hname := acceptsName_of_takes (takes_of_mem_takenFrom h)
  rw [takenFrom] at h
  split at h
  · obtain ⟨directories, name, rfl, hentered⟩ := exists_entered_of_mem_taken h
    rw [acceptsName, FilePath.extension, FilePath.name_mk] at hname
    simp only [Bool.and_eq_true, Bool.not_eq_true', List.contains_iff_mem] at hname
    obtain ⟨⟨hextension, htest⟩, htooling⟩ := hname
    refine .intro directories name (fun d hd => ?_) hextension htest htooling
    have henters := hentered d hd
    rwa [WalkFrame.enters, Bool.not_eq_true'] at henters
  · cases h

end Entries

/-! ## The files found -/

section Files

variable {tree : FileTree} {o : ScanOptions} {root : FilePath}

/-- A file is recorded under the real path of its entry, with the extension that
this has. -/
theorem realPath_of_resolved (hwell : tree.WellFormed) {entry : FilePath} {c : Candidate}
    (htakes : WalkFrame.takes ⟨tree, o, root⟩ entry = true)
    (hc : WalkFrame.resolved ⟨tree, o, root⟩ entry = some c) :
    tree.realPath root entry = some (.ofText c.path) ∧
      c.extension = Text.lower (FilePath.ofText c.path).extension := by
  obtain ⟨real, t, hreal, -, -, hresolved⟩ := WalkFrame.exists_resolved htakes
  obtain ⟨real', hreal', hback⟩ := exists_realPath_of_takes hwell htakes
  obtain rfl : real = real' := Option.some.inj (hreal.symm.trans hreal')
  obtain rfl : _ = c := Option.some.inj (hresolved.symm.trans hc)
  dsimp only
  rw [hback]
  exact ⟨hreal, rfl⟩

/-- In a tree that a file system can hold, the entries of the files that a walk
finds pass the filter, and each file is recorded under the real path of one of them,
with the extension that this has. So all files found pass the filter, by path and
extension, exactly where each link among their entries leads to a path that does. -/
theorem passes_files_iff (hwell : tree.WellFormed) (hmax : 1 ≤ o.maxFiles) {here path : FilePath}
    (hroot : tree.realPath here path = some root) :
    let kept := keptFrom tree o root
    let files := (walk tree o root).files
    (∀ entry ∈ kept, Passes o root entry) ∧
      (∀ c ∈ files, ∃ entry ∈ kept, tree.realPath root entry = some (.ofText c.path) ∧
        c.extension = Text.lower (FilePath.ofText c.path).extension) ∧
      ((∀ c ∈ files, Passes o root (.ofText c.path) ∧ c.extension ∈ o.extensions) ↔
        ∀ link ∈ kept, tree.isLinkAt link.names = true →
          ∀ real, tree.realPath root link = some real → Passes o root real) := by
  intro kept files
  have htaken : ∀ entry ∈ kept, entry ∈ takenFrom tree o root := fun entry => List.mem_of_mem_take
  have hpasses : ∀ entry ∈ kept, Passes o root entry := fun entry hentry =>
    passes_of_mem_takenFrom (htaken entry hentry)
  have hfound : ∀ c ∈ files, ∃ entry ∈ kept, tree.realPath root entry = some (.ofText c.path) ∧
      c.extension = Text.lower (FilePath.ofText c.path).extension := by
    intro c hc
    obtain ⟨entry, hentry, hresolved⟩ := (mem_files_iff hmax).mp hc
    exact ⟨entry, hentry, realPath_of_resolved hwell
      (takes_of_mem_takenFrom (htaken entry hentry)) hresolved⟩
  refine ⟨hpasses, hfound, fun h link hlink _ real hreal => ?_, fun h c hc => ?_⟩
  · have htakes := takes_of_mem_takenFrom (htaken link hlink)
    obtain ⟨_, _, -, -, -, hresolved⟩ := WalkFrame.exists_resolved htakes
    obtain ⟨hreal', -⟩ := realPath_of_resolved hwell htakes hresolved
    obtain rfl : real = _ := Option.some.inj (hreal.symm.trans hreal')
    exact (h _ ((mem_files_iff hmax).mpr ⟨link, hlink, hresolved⟩)).1
  · obtain ⟨entry, hentry, hreal, hextension⟩ := hfound c hc
    have hpath : Passes o root (.ofText c.path) := by
      cases hlink : tree.isLinkAt entry.names with
      | true => exact h entry hentry hlink _ hreal
      | false =>
        -- An entry that is no link is recorded under its own path.
        obtain ⟨way, name, u, hstands⟩ := (takenFrom_spec hwell hroot).2 entry (htaken entry hentry)
        obtain rfl : entry = _ :=
          Option.some.inj ((hstands.realPath_eq hlink root).symm.trans hreal)
        exact hpasses _ hentry
    exact ⟨hpath, hextension ▸ hpath.extension_mem⟩

end Files

/-- A link to a file that passes the filter itself. -/
theorem passes_files_linkedTree :
    linkedTree.WellFormed ∧ 1 ≤ ({} : ScanOptions).maxFiles ∧
      linkedTree.realPath top top = some top ∧ linkedTree.isLinkAt ["b.js"] = true ∧
      ⟨"/", ["b.js"]⟩ ∈ keptFrom linkedTree {} top ∧
      ∀ c ∈ (walk linkedTree {} top).files,
        Passes {} top (.ofText c.path) ∧ c.extension ∈ ({} : ScanOptions).extensions := by
  have hmax : 1 ≤ ({} : ScanOptions).maxFiles := by decide
  have hkept : keptFrom linkedTree {} top = [⟨"/", ["api", "a.js"]⟩, ⟨"/", ["b.js"]⟩] := by
    rw [keptFrom, takenFrom_linkedTree]
    rfl
  have hpasses : Passes {} top ⟨"/", ["api", "a.js"]⟩ :=
    passes_of_mem_takenFrom (takenFrom_linkedTree ▸ List.mem_cons_self)
  obtain ⟨hfile, hlink⟩ := lookup_linkedTree top
  obtain ⟨-, -, hfiles⟩ := passes_files_iff (o := {}) wellFormed_linkedTree hmax (realPath_top _)
  refine ⟨wellFormed_linkedTree, hmax, realPath_top _, by decide, ?_, hfiles.mpr ?_⟩
  · rw [hkept]
    exact List.mem_cons_of_mem _ List.mem_cons_self
  · -- Both entries have the real path of the file.
    have hreal : ∀ entry ∈ keptFrom linkedTree {} top,
        linkedTree.realPath top entry = some ⟨"/", ["api", "a.js"]⟩ := by
      rw [hkept]
      exact List.forall_mem_cons.mpr ⟨FileTree.realPath_of_lookup hfile,
        List.forall_mem_singleton.mpr (FileTree.realPath_of_lookup hlink)⟩
    intro entry hentry _ real h
    obtain rfl : _ = real := Option.some.inj ((hreal entry hentry).symm.trans h)
    exact hpasses

/-! ## A link that leads outside -/

/-- A tree with two directories, and a link from one to a file in the other. -/
def outsideTree : FileTree :=
  .directory [("lib", .directory [("app.js", .file ⟨#[120]⟩)]),
    ("repo", .directory [("app.js", .link "../lib/app.js")])]

/-- The directory with the link. -/
def outsideRoot : FilePath := ⟨"/", ["repo"]⟩

theorem wellFormed_outsideTree : outsideTree.WellFormed := by
  have hfile : (FileTree.file ⟨#[120]⟩).WellFormed :=
    .intro (by decide) (by decide) (List.forall_mem_nil _)
  have hlink : (FileTree.link "../lib/app.js").WellFormed :=
    .intro (by decide) (by decide) (List.forall_mem_nil _)
  have hlib : (FileTree.directory [("app.js", .file ⟨#[120]⟩)]).WellFormed :=
    .intro (by decide) (by decide) (List.forall_mem_singleton.mpr hfile)
  have hrepo : (FileTree.directory [("app.js", .link "../lib/app.js")]).WellFormed :=
    .intro (by decide) (by decide) (List.forall_mem_singleton.mpr hlink)
  exact .intro (by decide) (by decide)
    (List.forall_mem_cons.mpr ⟨hlib, List.forall_mem_singleton.mpr hrepo⟩)

/-- The directory is its own real path, and the link leads to the file beside it. -/
theorem lookup_outsideTree (here : FilePath) :
    outsideTree.lookup here outsideRoot =
        .ok [("repo", .directory [("app.js", .link "../lib/app.js")])] ∧
      outsideTree.lookup here ⟨"/", ["repo", "app.js"]⟩ =
        .ok [("app.js", .file ⟨#[120]⟩), ("lib", .directory [("app.js", .file ⟨#[120]⟩)])] := by
  have hdirectory : ∀ entries target, FileTree.directory entries ≠ .link target := by
    intro entries target h
    cases h
  have hfile : ∀ target, FileTree.file ⟨#[120]⟩ ≠ .link target := by
    intro target h
    cases h
  have hrepo : ∀ rest, outsideTree.follow FileTree.maxLinks [] ("repo" :: rest) =
      outsideTree.follow FileTree.maxLinks
        [("repo", .directory [("app.js", .link "../lib/app.js")])] rest := fun rest =>
    FileTree.follow_cons rest (by decide) rfl (hdirectory _)
  have htarget : FilePath.ofText "../lib/app.js" = ⟨"", ["..", "lib", "app.js"]⟩ := by decide
  have hchild : (FileTree.Way.target [("repo", .directory [("app.js", .link "../lib/app.js")])]
      outsideTree).child? "app.js" = some (.link "../lib/app.js") := rfl
  constructor
  · rw [FileTree.lookup, outsideRoot, FileTree.fromRoot_real, hrepo, FileTree.follow]
  · rw [FileTree.lookup, FileTree.fromRoot_real, hrepo, FileTree.maxLinks,
      FileTree.follow_link [] (by decide) hchild, htarget]
    change outsideTree.follow 39 _ (".." :: ["lib", "app.js"]) = _
    rw [FileTree.follow_up _ rfl,
      FileTree.follow_cons ["app.js"] (by decide) rfl (hdirectory _),
      FileTree.follow_cons [] (by decide) rfl hfile, FileTree.follow]
    rfl

/-- The file beside the directory is found in it by the link. -/
theorem outside_not_passes :
    outsideTree.WellFormed ∧ 1 ≤ ({} : ScanOptions).maxFiles ∧
      outsideTree.realPath top outsideRoot = some outsideRoot ∧
      ⟨"/lib/app.js", 1, ".js"⟩ ∈ (walk outsideTree {} outsideRoot).files ∧
      ¬Passes {} outsideRoot (.ofText "/lib/app.js") := by
  have hmax : 1 ≤ ({} : ScanOptions).maxFiles := by decide
  obtain ⟨hroot, hlink⟩ := lookup_outsideTree top
  obtain ⟨hroot', hlink'⟩ := lookup_outsideTree outsideRoot
  have hat : outsideTree.at? outsideRoot ⟨"/", ["repo", "app.js"]⟩ = some (.file ⟨#[120]⟩) := by
    rw [FileTree.at?, hlink']
    rfl
  have htakes : WalkFrame.takes ⟨outsideTree, {}, outsideRoot⟩ ⟨"/", ["repo", "app.js"]⟩ = true :=
    WalkFrame.takes_of_at? hat rfl (by decide +kernel) rfl rfl
  have htaken : takenFrom outsideTree {} outsideRoot = [⟨"/", ["repo", "app.js"]⟩] :=
    (takenFrom_flat hroot' rfl (List.pairwise_singleton _ _)
      (List.forall_mem_singleton.mpr rfl)).trans (List.filter_cons_of_pos htakes)
  have hresolved : WalkFrame.resolved ⟨outsideTree, {}, outsideRoot⟩ ⟨"/", ["repo", "app.js"]⟩ =
      some ⟨"/lib/app.js", 1, ".js"⟩ := by
    rw [WalkFrame.resolved, FileTree.realPath_of_lookup hlink', Option.bind_some, candidate?,
      FileTree.at?, FileTree.lookup_names hlink']
    decide +kernel
  refine ⟨wellFormed_outsideTree, hmax, FileTree.realPath_of_lookup hroot,
    (mem_files_iff hmax).mpr ⟨_, ?_, hresolved⟩, ?_⟩
  · rw [keptFrom, htaken]
    exact List.mem_cons_self
  · have hpath : FilePath.ofText "/lib/app.js" = ⟨"/", ["lib", "app.js"]⟩ := by decide
    rw [hpath]
    generalize hnames : (⟨"/", ["lib", "app.js"]⟩ : FilePath) = path
    rintro ⟨directories, name⟩
    have hhead := congrArg (fun p : FilePath => p.names.head?) hnames
    have hsame : "lib" = "repo" := Option.some.inj hhead
    exact absurd hsame (by decide)

end RouteDoc
