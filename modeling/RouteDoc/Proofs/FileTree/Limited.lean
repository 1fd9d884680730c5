import RouteDoc.Proofs.FileTree.Walked

/-!
# Reports of a walk

A walk reports directories that cannot be listed, and that its limit was reached.
The limit is reached with the last file there is room for, whether or not there are
more.

* `reports_walkFrom`: what is reported on the way;
* `LeavesOut`: a walk that finds more files with a higher limit;
* `truncated_iff_leavesOut_or`: the limit is reported where files are left out, and
  where there are just as many files as it allows for;
* `truncated_exactly`: a walk that reports the limit and leaves out nothing.
-/

namespace RouteDoc

/-! ## What is reported -/

/-- A part of a walk reports directories that cannot be listed, and nothing else. -/
def ReportsDirectories (part : Harvest → Walked) : Prop :=
  ∀ h : Harvest, ∀ d ∈ (part h).1.reports,
    d ∈ h.reports ∨ ∃ path reason, d = .unreadableDirectory path reason

theorem ReportsDirectories.andThen {part next : Harvest → Walked} (hpart : ReportsDirectories part)
    (hnext : ReportsDirectories next) :
    ReportsDirectories fun h => (part h).andThen next := by
  intro h d hd
  dsimp only [Walked.andThen] at hd
  split at hd
  · exact hpart h d hd
  · rcases hnext _ d hd with hd | hreport
    · exact hpart h d hd
    · exact .inr hreport

theorem reportsDirectories_report (path : FilePath) (fault : AccessFault) :
    ReportsDirectories fun h => (h.report path fault, false) := by
  intro h d hd
  rcases Array.mem_push.mp hd with hd | rfl
  · exact .inl hd
  · exact .inr ⟨_, _, rfl⟩

section Walk

variable (w : WalkFrame)

theorem reports_walkFiles (path : FilePath) (entries : List (String × FileTree)) (h : Harvest) :
    (walkFiles w path entries h).1.reports = h.reports := by
  induction entries generalizing h with
  | nil => rfl
  | cons e rest ih =>
    rw [walkFiles]
    split
    · exact ih h
    · rename_i c _
      dsimp only
      split
      · rfl
      · exact ih (h.keep c)

theorem reportsDirectories_walkFiles (path : FilePath) (entries : List (String × FileTree)) :
    ReportsDirectories (walkFiles w path entries) := fun h _ hd =>
  .inl (reports_walkFiles w path entries h ▸ hd)

mutual

theorem reports_walkDirectory (path : FilePath) :
    (t : FileTree) → ReportsDirectories (walkDirectory w path t)
  | .directory entries =>
    (reports_walkBelow path entries).andThen (reportsDirectories_walkFiles w path entries)
  | .sealed _ => reportsDirectories_report path .denied
  | .file _ => reportsDirectories_report path .notDirectory
  | .closed _ => reportsDirectories_report path .notDirectory
  | .link _ => reportsDirectories_report path .notDirectory

theorem reports_walkBelow (path : FilePath) :
    (entries : List (String × FileTree)) → ReportsDirectories (walkBelow w path entries)
  | [] => fun h d hd => .inl hd
  | (name, t) :: rest => by
    rw [walkBelow_cons]
    cases t.isDirectory && w.enters name with
    | true =>
      exact (reports_walkDirectory (path.join ⟨"", [name]⟩) t).andThen (reports_walkBelow path rest)
    | false => exact reports_walkBelow path rest

end

end Walk

/-- What a walk reports on its way: directories that cannot be listed. -/
theorem reports_walkFrom {tree : FileTree} {o : ScanOptions} {root : FilePath} {d : Diagnostic}
    (hd : d ∈ (walkFrom tree o root).1.reports) :
    ∃ path reason, d = .unreadableDirectory path reason := by
  have hnone : d ∉ ({} : Harvest).reports := Array.not_mem_empty d
  rw [walkFrom] at hd
  split at hd
  · exact (reports_walkDirectory _ _ _ {} d hd).resolve_left hnone
  · rename_i fault _
    exact (reportsDirectories_report root fault {} d hd).resolve_left hnone

/-! ## The limit -/

/-- Whether a walk leaves out a file: a walk with a higher limit finds more. -/
def LeavesOut (tree : FileTree) (o : ScanOptions) (root : FilePath) : Prop :=
  ∃ more, o.maxFiles ≤ more ∧
    (walk tree o root).files.length < (walk tree { o with maxFiles := more } root).files.length

section Limit

variable {o : ScanOptions} (tree : FileTree) (root : FilePath)

theorem length_files (hmax : 1 ≤ o.maxFiles) :
    (walk tree o root).files.length = min o.maxFiles.toNat (filesFrom tree o root).length := by
  rw [walk_eq hmax, List.length_mergeSort, List.length_take]

theorem leavesOut_iff (hmax : 1 ≤ o.maxFiles) :
    LeavesOut tree o root ↔ o.maxFiles.toNat < (filesFrom tree o root).length := by
  -- The files that there are do not depend on the limit.
  have hmore : ∀ more, o.maxFiles ≤ more →
      (walk tree { o with maxFiles := more } root).files.length =
        min more.toNat (filesFrom tree o root).length := fun more hle =>
    length_files tree root (o := { o with maxFiles := more }) (Int.le_trans hmax hle)
  constructor
  · rintro ⟨more, hle, hlt⟩
    rw [hmore more hle, length_files tree root hmax] at hlt
    omega
  · intro hlt
    refine ⟨(filesFrom tree o root).length, by omega, ?_⟩
    rw [hmore (filesFrom tree o root).length (by omega), length_files tree root hmax]
    omega

theorem diagnostics_walk : (walk tree o root).diagnostics =
    (walkFrom tree o root).1.reports.toList ++
      if (walk tree o root).truncated then [.fileLimit root.text o.maxFiles] else [] := rfl

/-- A walk reports its limit once or not at all. -/
theorem limit_reports :
    (walk tree o root).diagnostics.filter (·.code == "max-files") =
      if (walk tree o root).truncated then [.fileLimit root.text o.maxFiles] else [] := by
  have hreports : (walkFrom tree o root).1.reports.toList.filter (·.code == "max-files") = [] := by
    refine List.filter_eq_nil_iff.mpr fun d hd => ?_
    obtain ⟨path, reason, rfl⟩ := reports_walkFrom (Array.mem_toList_iff.mp hd)
    change ¬("unreadable-dir" == "max-files") = true
    decide
  rw [diagnostics_walk, List.filter_append, hreports, List.nil_append]
  split <;> rfl

end Limit

/-- A walk with a limit of at least one file leaves out files exactly where there are
more than the limit allows for. It reports the limit, by a single diagnostic, where it
leaves out files, and also where there are just as many as the limit allows for: so
the report says that files are left out unless there are just as many. -/
theorem truncated_iff_leavesOut_or (tree : FileTree) {o : ScanOptions} (root : FilePath)
    (hmax : 1 ≤ o.maxFiles) :
    let found := filesFrom tree o root
    let w := walk tree o root
    (LeavesOut tree o root ↔ o.maxFiles.toNat < found.length) ∧
      (w.truncated = true ↔ LeavesOut tree o root ∨ found.length = o.maxFiles.toNat) ∧
      w.diagnostics.filter (·.code == "max-files") =
        (if w.truncated then [.fileLimit root.text o.maxFiles] else []) ∧
      ((w.truncated = true ↔ LeavesOut tree o root) ↔ found.length ≠ o.maxFiles.toNat) := by
  intro found w
  have hleaves : LeavesOut tree o root ↔ o.maxFiles.toNat < found.length :=
    leavesOut_iff tree root hmax
  have hfull : w.truncated = true ↔ o.maxFiles.toNat ≤ found.length :=
    (walkFrom_files hmax tree root).2
  refine ⟨hleaves, ?_, limit_reports tree root, ?_⟩
  · rw [hfull, hleaves]
    omega
  · rw [hfull, hleaves]
    omega

/-- A limit of one file leaves out the second. -/
theorem truncated_linkedTree :
    1 ≤ ({ maxFiles := 1 } : ScanOptions).maxFiles ∧
      LeavesOut linkedTree { maxFiles := 1 } top ∧
      (walk linkedTree { maxFiles := 1 } top).truncated = true ∧
      (walk linkedTree { maxFiles := 1 } top).diagnostics.filter (·.code == "max-files") =
        [.fileLimit "/" 1] := by
  have hmax : 1 ≤ ({ maxFiles := 1 } : ScanOptions).maxFiles := by decide
  have hfound : filesFrom linkedTree { maxFiles := 1 } top = [linkedFile, linkedFile] :=
    filesFrom_linkedTree
  obtain ⟨hleaves, htruncated, hreport, -⟩ := truncated_iff_leavesOut_or linkedTree top hmax
  have hmore : LeavesOut linkedTree { maxFiles := 1 } top := by
    rw [hleaves, hfound]
    decide
  have hend := htruncated.mpr (.inl hmore)
  refine ⟨hmax, hmore, hend, ?_⟩
  rw [hreport, hend]
  decide

/-- A tree with one file. -/
def singleTree : FileTree := .directory [("app.js", .file ⟨#[120]⟩)]

theorem filesFrom_singleTree :
    filesFrom singleTree { maxFiles := 1 } top = [⟨"/app.js", 1, ".js"⟩] := by
  have htree : singleTree = .directory [("app.js", .file ⟨#[120]⟩)] := rfl
  rw [filesFrom_flat htree (by decide) (by decide) (by decide)
    (List.forall_mem_singleton.mpr (.inl rfl))]
  decide +kernel

/-- A limit of one file is reported where there is one, and none is left out. -/
theorem truncated_exactly :
    (walk singleTree { maxFiles := 1 } top).files = [⟨"/app.js", 1, ".js"⟩] ∧
      (walk singleTree { maxFiles := 1 } top).truncated = true ∧
      (walk singleTree { maxFiles := 1 } top).diagnostics.filter (·.code == "max-files") =
        [.fileLimit "/" 1] ∧
      ¬LeavesOut singleTree { maxFiles := 1 } top := by
  have hmax : 1 ≤ ({ maxFiles := 1 } : ScanOptions).maxFiles := by decide
  have hfull : (walk singleTree { maxFiles := 1 } top).truncated = true ↔
      1 ≤ (filesFrom singleTree { maxFiles := 1 } top).length :=
    (walkFrom_files hmax singleTree top).2
  have htruncated : (walk singleTree { maxFiles := 1 } top).truncated = true := by
    rw [hfull, filesFrom_singleTree]
    decide
  refine ⟨?_, htruncated, ?_, ?_⟩
  · rw [walk_eq hmax, filesFrom_singleTree]
    exact List.mergeSort_singleton _
  · rw [limit_reports, htruncated]
    decide
  · rw [leavesOut_iff singleTree top hmax, filesFrom_singleTree]
    decide

end RouteDoc
