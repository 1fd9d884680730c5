import Mathlib.Data.List.Perm.Subperm
import RouteDoc.Proofs.Entries
import RouteDoc.Proofs.FileTree.Way
import RouteDoc.Proofs.Text.Order
import RouteDoc.Run.Discovery

/-!
# What a walk finds

A walk gathers files as it goes and ends where the limit is reached, at whatever
depth. It finds what a walk without a limit would find first.

* `takenFrom`: the entries of files worth reading, directory by directory;
* `exists_resolved`: the file in such an entry, under its real path;
* `gathers_walkDirectory`: what a walk gathers in and below a directory, up to the
  limit;
* `walk_files`: the files of a walk are the first of all, in the order of their
  paths.
-/

namespace RouteDoc

/-! ## Sorted trees -/

namespace FileTree

theorem sortedEach_eq (entries : List (String × FileTree)) :
    sortedEach entries = entries.map fun e => (e.1, sorted e.2) := by
  induction entries with
  | nil => rfl
  | cons e rest ih => rw [sortedEach, ih, List.map_cons]

/-- Sorting a tree sorts the entries of each directory, and loses none. -/
theorem sorted_entries (t : FileTree) :
    t.sorted.entries.Pairwise (fun a b => a.1 ≤ b.1) ∧
      t.sorted.entries.Perm (t.entries.map fun e => (e.1, sorted e.2)) := by
  cases t with
  | directory entries | sealed entries =>
    rw [sorted, FileTree.entries, FileTree.entries, sortedEach_eq]
    exact ⟨pairwise_mergeSort_text _ _, List.mergeSort_perm _ _⟩
  | file _ | closed _ | link _ => exact ⟨.nil, .refl _⟩

/-- A property holds of all trees if it passes from the entries of a directory to
the directory. -/
theorem induction_on {P : FileTree → Prop} (t : FileTree)
    (step : ∀ t : FileTree, (∀ e ∈ t.entries, P e.2) → P t) : P t :=
  step t fun e _ => induction_on e.2 step
termination_by sizeOf t
decreasing_by
  have he : sizeOf e < sizeOf t.entries := List.sizeOf_lt_of_mem ‹_›
  have hentries : sizeOf t.entries ≤ sizeOf t := by
    cases t <;> simp [FileTree.entries]
  obtain ⟨name, u⟩ := e
  simp only [Prod.mk.sizeOf_spec] at he ⊢
  omega

end FileTree

/-! ## The entries that are taken -/

section Taken

variable (enters : String → Bool) (takes : FilePath → Bool)

/-- The entries among some that are no directories and are to be taken. -/
def takenAmong (path : FilePath) (entries : List (String × FileTree)) : List FilePath :=
  ((entries.filter (!·.2.isDirectory)).map fun e => path.join ⟨"", [e.1]⟩).filter takes

mutual

/-- The entries to be taken in and below a directory: those below the directories
in it that are entered, then those in itself. -/
def taken (path : FilePath) : FileTree → List FilePath
  | .directory entries => takenBelow path entries ++ takenAmong takes path entries
  | _ => []

/-- The entries to be taken below the directories among some entries. -/
def takenBelow (path : FilePath) : List (String × FileTree) → List FilePath
  | [] => []
  | (name, t) :: rest =>
    (if t.isDirectory && enters name then taken (path.join ⟨"", [name]⟩) t else []) ++
      takenBelow path rest

end

theorem takenBelow_eq (path : FilePath) (entries : List (String × FileTree)) :
    takenBelow enters takes path entries = entries.flatMap fun e =>
      if e.2.isDirectory && enters e.1 then taken enters takes (path.join ⟨"", [e.1]⟩) e.2
      else [] := by
  induction entries with
  | nil => rfl
  | cons e rest ih => rw [takenBelow, ih, List.flatMap_cons]

variable {enters takes}

theorem takes_of_mem_taken {t : FileTree} {path entry : FilePath}
    (h : entry ∈ taken enters takes path t) : takes entry = true := by
  induction t using FileTree.induction_on generalizing path with
  | step t ih =>
    cases t with
    | directory entries =>
      rw [taken, List.mem_append, takenBelow_eq, List.mem_flatMap] at h
      rcases h with ⟨e, he, h⟩ | h
      · split at h
        · exact ih e he h
        · cases h
      · exact (List.mem_filter.mp h).2
    | sealed _ | file _ | closed _ | link _ => cases h

end Taken

/-- The entries of files worth reading from a directory on, names in order. -/
def takenFrom (tree : FileTree) (o : ScanOptions) (root : FilePath) : List FilePath :=
  let w : WalkFrame := ⟨tree, o, root⟩
  match tree.lookup root root with
  | .ok way => taken w.enters w.takes root (way.target tree).sorted
  | .error _ => []

/-- An entry that is taken leads to a file. -/
theorem WalkFrame.exists_lookup {w : WalkFrame} {path : FilePath} (h : w.takes path = true) :
    ∃ way, w.tree.lookup w.root path = .ok way ∧ (way.target w.tree).isFile = true := by
  rw [takes, Bool.and_eq_true, Option.any_eq_true] at h
  obtain ⟨⟨t, ht, hfile⟩, -⟩ := h
  rw [FileTree.at?] at ht
  split at ht
  · rename_i way hway
    obtain rfl := Option.some.inj ht
    exact ⟨way, hway, hfile⟩
  · cases ht

/-- The file in an entry that is taken, under the real path of the entry. -/
theorem WalkFrame.exists_resolved {w : WalkFrame} {path : FilePath} (h : w.takes path = true) :
    ∃ real t, w.tree.realPath w.root path = some real ∧ w.tree.at? w.root path = some t ∧
      t.isFile = true ∧
      w.resolved path = some ⟨real.text, t.size, Text.lower real.extension⟩ := by
  obtain ⟨way, hway, hfile⟩ := exists_lookup h
  have hreal := FileTree.realPath_of_lookup hway
  refine ⟨_, way.target w.tree, hreal, ?_, hfile, ?_⟩
  · rw [FileTree.at?, hway]
  · rw [resolved, hreal, Option.bind_some, candidate?, FileTree.at?, FileTree.lookup_names hway]
    rfl

/-- A path to a file is taken if its name, its path and its size qualify it. -/
theorem WalkFrame.takes_of_at? {w : WalkFrame} {path : FilePath} {t : FileTree}
    (hat : w.tree.at? w.root path = some t) (hfile : t.isFile = true)
    (hname : acceptsName w.options path = true)
    (hkept : isExcluded w.options.excludedPatterns (some w.root) path = false)
    (hsize : acceptsSize w.options t.size = true) : w.takes path = true := by
  rw [takes, accepts, hat, hname, hkept]
  simp only [Option.any_some, hfile, hsize, Bool.not_false, Bool.and_self]

/-! ## Gathering up to a limit -/

/-- A part of a walk gathers some files: as many of them as a limit leaves room
for, and it ends the walk where they reach the limit. -/
def Gathers (limit : Nat) (part : Harvest → Walked) (files : List Candidate) : Prop :=
  ∀ h : Harvest, h.files.size < limit →
    (part h).1.files.toList = h.files.toList ++ files.take (limit - h.files.size) ∧
      ((part h).2 = true ↔ limit ≤ h.files.size + files.length)

theorem gathers_none {limit : Nat} {part : Harvest → Walked}
    (hpart : ∀ h, (part h).1.files = h.files ∧ (part h).2 = false) : Gathers limit part [] := by
  intro h hsize
  obtain ⟨hfiles, hfull⟩ := hpart h
  rw [hfiles, hfull, List.take_nil, List.append_nil, List.length_nil]
  exact ⟨rfl, iff_of_false Bool.false_ne_true (by omega)⟩

/-- Parts of a walk one after another. -/
theorem Gathers.andThen {limit : Nat} {part next : Harvest → Walked} {xs ys : List Candidate}
    (hpart : Gathers limit part xs) (hnext : Gathers limit next ys) :
    Gathers limit (fun h => (part h).andThen next) (xs ++ ys) := by
  intro h hsize
  obtain ⟨hfiles, hfull⟩ := hpart h hsize
  have hcount : (part h).1.files.size =
      h.files.size + min (limit - h.files.size) xs.length := by
    have hlength := congrArg List.length hfiles
    rwa [List.length_append, List.length_take, Array.length_toList, Array.length_toList] at hlength
  dsimp only [Walked.andThen]
  rw [List.take_append, List.length_append]
  split
  · rename_i hend
    have hlimit := hfull.mp hend
    have hroom : limit - h.files.size - xs.length = 0 := by omega
    rw [hfiles, hroom, List.take_zero, List.append_nil]
    exact ⟨rfl, iff_of_true hend (by omega)⟩
  · rename_i hend
    have hlimit : ¬limit ≤ h.files.size + xs.length := mt hfull.mpr hend
    have hsize' : (part h).1.files.size = h.files.size + xs.length := by omega
    obtain ⟨hfiles', hfull'⟩ := hnext (part h).1 (by omega)
    rw [hfiles', hfull', hfiles, hsize', List.append_assoc, Nat.sub_sub, Nat.add_assoc]
    exact ⟨rfl, Iff.rfl⟩

/-- One file more, after which a part goes on if there is room. -/
theorem Gathers.keep {limit : Nat} {part : Harvest → Walked} {files : List Candidate}
    (hpart : Gathers limit part files) (c : Candidate) :
    Gathers limit
      (fun h => if limit ≤ (h.keep c).files.size then (h.keep c, true) else part (h.keep c))
      (c :: files) := by
  intro h hsize
  have hkeep : (h.keep c).files.toList = h.files.toList ++ [c] := Array.toList_push
  have hcount : (h.keep c).files.size = h.files.size + 1 := Array.size_push c
  obtain ⟨room, hroom⟩ : ∃ room, limit - h.files.size = room + 1 :=
    ⟨limit - h.files.size - 1, by omega⟩
  dsimp only
  rw [hroom, List.take_succ_cons, List.length_cons]
  split
  · rename_i hend
    have hzero : room = 0 := by omega
    rw [hkeep, hzero, List.take_zero]
    exact ⟨rfl, iff_of_true rfl (by omega)⟩
  · rename_i hend
    obtain ⟨hfiles, hfull⟩ := hpart (h.keep c) (by omega)
    have hless : limit - (h.keep c).files.size = room := by omega
    rw [hfiles, hfull, hkeep, hless, hcount, List.append_assoc, List.singleton_append]
    exact ⟨rfl, by omega⟩

section Walk

variable (w : WalkFrame)

theorem filterMap_takenAmong_cons (path : FilePath) (name : String) (t : FileTree)
    (rest : List (String × FileTree)) :
    (takenAmong w.takes path ((name, t) :: rest)).filterMap w.resolved =
      (if t.isDirectory then none else w.fileAt? (path.join ⟨"", [name]⟩)).toList ++
        (takenAmong w.takes path rest).filterMap w.resolved := by
  rw [takenAmong, List.filter_cons]
  cases t.isDirectory with
  | true => rfl
  | false =>
    rw [Bool.not_false, if_pos rfl, List.map_cons, List.filter_cons, ← takenAmong,
      WalkFrame.fileAt?]
    cases w.takes (path.join ⟨"", [name]⟩) with
    | false => rfl
    | true =>
      simp only [if_true, List.filterMap_cons]
      cases w.resolved (path.join ⟨"", [name]⟩) <;> rfl

theorem walkBelow_cons (path : FilePath) (name : String) (t : FileTree)
    (rest : List (String × FileTree)) :
    walkBelow w path ((name, t) :: rest) = fun h =>
      if t.isDirectory && w.enters name then
        (walkDirectory w (path.join ⟨"", [name]⟩) t h).andThen (walkBelow w path rest)
      else walkBelow w path rest h := rfl

/-- The files among some entries. -/
theorem gathers_walkFiles (path : FilePath) (entries : List (String × FileTree)) :
    Gathers w.options.maxFiles.toNat (walkFiles w path entries)
      ((takenAmong w.takes path entries).filterMap w.resolved) := by
  induction entries with
  | nil => exact gathers_none fun h => ⟨rfl, rfl⟩
  | cons e rest ih =>
    obtain ⟨name, t⟩ := e
    rw [filterMap_takenAmong_cons]
    cases hfile : if t.isDirectory then none else w.fileAt? (path.join ⟨"", [name]⟩) with
    | none =>
      have hstep : walkFiles w path ((name, t) :: rest) = walkFiles w path rest := by
        funext h
        rw [walkFiles, hfile]
      rw [hstep]
      exact ih
    | some c =>
      have hstep : walkFiles w path ((name, t) :: rest) = fun h =>
          if w.options.maxFiles.toNat ≤ (h.keep c).files.size then (h.keep c, true)
          else walkFiles w path rest (h.keep c) := by
        funext h
        rw [walkFiles, hfile]
        simp only [Int.toNat_le]
      rw [hstep]
      exact ih.keep c

mutual

/-- What is in and below a directory. -/
theorem gathers_walkDirectory (path : FilePath) : (t : FileTree) →
    Gathers w.options.maxFiles.toNat (walkDirectory w path t)
      ((taken w.enters w.takes path t).filterMap w.resolved)
  | .directory entries => by
    have hparts := (gathers_walkBelow path entries).andThen (gathers_walkFiles w path entries)
    rw [taken, List.filterMap_append]
    exact hparts
  | .sealed _ => gathers_none fun h => ⟨rfl, rfl⟩
  | .file _ => gathers_none fun h => ⟨rfl, rfl⟩
  | .closed _ => gathers_none fun h => ⟨rfl, rfl⟩
  | .link _ => gathers_none fun h => ⟨rfl, rfl⟩

/-- What is below the directories among some entries. -/
theorem gathers_walkBelow (path : FilePath) : (entries : List (String × FileTree)) →
    Gathers w.options.maxFiles.toNat (walkBelow w path entries)
      ((takenBelow w.enters w.takes path entries).filterMap w.resolved)
  | [] => gathers_none fun h => ⟨rfl, rfl⟩
  | (name, t) :: rest => by
    rw [walkBelow_cons, takenBelow, List.filterMap_append]
    cases t.isDirectory && w.enters name with
    | true =>
      exact (gathers_walkDirectory (path.join ⟨"", [name]⟩) t).andThen (gathers_walkBelow path rest)
    | false => exact gathers_walkBelow path rest

end

end Walk

/-! ## The files of a walk -/

/-- The files in all entries that are taken from a directory on. -/
def filesFrom (tree : FileTree) (o : ScanOptions) (root : FilePath) : List Candidate :=
  (takenFrom tree o root).filterMap (WalkFrame.resolved ⟨tree, o, root⟩)

theorem walkFrom_files {o : ScanOptions} (hmax : 1 ≤ o.maxFiles) (tree : FileTree)
    (root : FilePath) :
    (walkFrom tree o root).1.files.toList = (filesFrom tree o root).take o.maxFiles.toNat ∧
      ((walkFrom tree o root).2 = true ↔ o.maxFiles.toNat ≤ (filesFrom tree o root).length) := by
  have hroom : (Array.size (#[] : Array Candidate)) < o.maxFiles.toNat := by
    rw [Array.size_empty]
    omega
  rw [walkFrom, filesFrom, takenFrom]
  cases tree.lookup root root with
  | ok way =>
    obtain ⟨hfiles, hfull⟩ := gathers_walkDirectory ⟨tree, o, root⟩ root (way.target tree).sorted
      {} hroom
    dsimp only at hfiles hfull ⊢
    rw [hfiles, hfull, Array.size_empty, Nat.sub_zero, Nat.zero_add]
    exact ⟨List.nil_append _, Iff.rfl⟩
  | error fault =>
    dsimp only
    rw [List.filterMap_nil, List.take_nil, List.length_nil]
    refine ⟨rfl, iff_of_false Bool.false_ne_true ?_⟩
    omega

theorem walk_eq {o : ScanOptions} (hmax : 1 ≤ o.maxFiles) (tree : FileTree) (root : FilePath) :
    (walk tree o root).files =
      ((filesFrom tree o root).take o.maxFiles.toNat).mergeSort fun a b => a.path ≤ b.path :=
  congrArg (fun files : List Candidate => files.mergeSort fun a b => a.path ≤ b.path)
    (walkFrom_files hmax tree root).1

theorem takes_of_mem_takenFrom {tree : FileTree} {o : ScanOptions} {root path : FilePath}
    (h : path ∈ takenFrom tree o root) : WalkFrame.takes ⟨tree, o, root⟩ path = true := by
  rw [takenFrom] at h
  split at h
  · exact takes_of_mem_taken h
  · cases h

section Flat

variable {tree : FileTree} {o : ScanOptions} {entries : List (String × FileTree)}

/-- Files have no entries. -/
theorem FileTree.entries_of_flat {t : FileTree} (h : t.isFile = true ∨ t = .sealed []) :
    t.entries = [] := by
  rcases h with hfile | rfl
  · cases t with
    | file _ | closed _ => rfl
    | directory _ | sealed _ | link _ => cases hfile
  · rfl

/-- Sorting changes nothing about a directory whose entries are in order and have none
themselves. -/
theorem FileTree.sorted_flat (hsorted : entries.Pairwise fun a b => a.1 ≤ b.1)
    (hflat : ∀ e ∈ entries, e.2.entries = []) :
    (FileTree.directory entries).sorted = .directory entries := by
  have hsame : ∀ t : FileTree, t.entries = [] → t.sorted = t := by
    intro t ht
    cases t with
    | directory below | sealed below =>
      obtain rfl : below = [] := ht
      rw [FileTree.sorted, FileTree.sortedEach, List.mergeSort_nil]
    | file _ | closed _ | link _ => rw [FileTree.sorted]
  have heach : FileTree.sortedEach entries = entries := by
    have hid : ∀ e ∈ entries, (e.1, e.2.sorted) = id e := fun e he =>
      Prod.ext rfl (hsame e.2 (hflat e he))
    rw [FileTree.sortedEach_eq, List.map_congr_left hid, List.map_id]
  rw [FileTree.sorted, heach, List.mergeSort_of_pairwise (by simpa using hsorted)]

/-- From such a directory on, just entries in itself are taken. -/
theorem takenFrom_flat {root : FilePath} {way : FileTree.Way}
    (hlookup : tree.lookup root root = .ok way) (hway : way.target tree = .directory entries)
    (hsorted : entries.Pairwise fun a b => a.1 ≤ b.1)
    (hflat : ∀ e ∈ entries, e.2.entries = []) :
    takenFrom tree o root = takenAmong (WalkFrame.takes ⟨tree, o, root⟩) root entries := by
  have hnone : ∀ (t : FileTree) (enters takes path), t.entries = [] →
      taken enters takes path t = [] := by
    intro t enters takes path ht
    cases t with
    | directory below =>
      obtain rfl : below = [] := ht
      rfl
    | sealed _ | file _ | closed _ | link _ => rfl
  rw [takenFrom, hlookup]
  dsimp only
  rw [hway, FileTree.sorted_flat hsorted hflat, taken, takenBelow_eq]
  refine (congrArg (· ++ _) (List.flatMap_eq_nil_iff.mpr fun e he => ?_)).trans (List.nil_append _)
  rw [hnone e.2 _ _ _ (hflat e he), ite_self]

/-- The file that an entry at the top of a tree is, if it is worth reading. -/
def topFile? (o : ScanOptions) (e : String × FileTree) : Option Candidate :=
  let path : FilePath := ⟨"/", [e.1]⟩
  if e.2.isFile && (acceptsName o path && !isExcluded o.excludedPatterns (some top) path &&
      acceptsSize o e.2.size) then
    some ⟨path.text, e.2.size, Text.lower path.extension⟩
  else none

theorem topFile?_of_qualified {name : String} {t : FileTree} (hfile : t.isFile = true)
    (hname : acceptsName o ⟨"/", [name]⟩ = true)
    (hkept : isExcluded o.excludedPatterns (some top) ⟨"/", [name]⟩ = false)
    (hsize : acceptsSize o t.size = true) :
    topFile? o (name, t) = some ⟨FilePath.text ⟨"/", [name]⟩, t.size,
      Text.lower (FilePath.extension ⟨"/", [name]⟩)⟩ := by
  rw [topFile?]
  simp only [hfile, hname, hkept, hsize, Bool.not_false, Bool.and_self, if_true]

/-- Of an entry at the top of a tree, what a walk finds does not depend on the others. -/
theorem fileAt?_top {e : String × FileTree} (hchild : tree.child? e.1 = some e.2)
    (hfile : e.2.isFile = true) (hup : e.1 ≠ "..") :
    WalkFrame.fileAt? ⟨tree, o, top⟩ ⟨"/", [e.1]⟩ = topFile? o e := by
  have hat := at?_file hchild hfile hup
  rw [WalkFrame.fileAt?, topFile?, WalkFrame.takes, accepts, WalkFrame.resolved,
    realPath_file hchild hfile hup, Option.bind_some, candidate?]
  dsimp only
  rw [hat, Option.any_some, Option.map_some]

/-- The files of a tree that has nothing but files, and directories that cannot be
listed. -/
theorem filesFrom_flat (htree : tree = .directory entries)
    (hsorted : entries.Pairwise fun a b => a.1 ≤ b.1) (hnodup : (entries.map (·.1)).Nodup)
    (hup : ∀ e ∈ entries, e.1 ≠ "..")
    (hflat : ∀ e ∈ entries, e.2.isFile = true ∨ e.2 = .sealed []) :
    filesFrom tree o top = entries.filterMap (topFile? o) := by
  have hentries : ∀ e ∈ entries, e.2.entries = [] := fun e he =>
    FileTree.entries_of_flat (hflat e he)
  have hone : ∀ e ∈ entries, (if e.2.isDirectory then none else
      WalkFrame.fileAt? ⟨tree, o, top⟩ (top.join ⟨"", [e.1]⟩)) = topFile? o e := by
    intro e he
    rcases hflat e he with hfile | hsealed
    · have hchild : tree.child? e.1 = some e.2 := by
        rw [htree]
        exact (Entries.mem_iff_get? hnodup).mp he
      have hnot : e.2.isDirectory = false := by
        revert hfile
        cases e.2 <;> simp [FileTree.isFile, FileTree.isDirectory]
      rw [hnot]
      exact fileAt?_top hchild hfile (hup e he)
    · rw [topFile?, hsealed]
      rfl
  rw [filesFrom, takenFrom_flat (lookup_top tree) htree hsorted hentries]
  clear hsorted hnodup hup hflat hentries htree
  induction entries with
  | nil => rfl
  | cons e rest ih =>
    have hrest := ih fun e he => hone e (List.mem_cons_of_mem _ he)
    rw [filterMap_takenAmong_cons, hrest, List.filterMap_cons, hone e List.mem_cons_self]
    cases topFile? o e <;> rfl

/-- What is read of a file at the top of a tree. -/
theorem readText?_top (htree : tree = .directory entries) (hnodup : (entries.map (·.1)).Nodup)
    {name : String} {bytes : ByteArray} (hentry : (name, .file bytes) ∈ entries)
    (hup : name ≠ "..") {limit : Int} (hlimit : (bytes.size : Int) ≤ limit) :
    readText? tree top ⟨"/", [name]⟩ limit = some (Text.decodeUtf8 bytes) := by
  have hchild : tree.child? name = some (.file bytes) := by
    rw [htree]
    exact (Entries.mem_iff_get? hnodup).mp hentry
  rw [readText?, at?_file hchild rfl hup]
  exact if_pos hlimit

/-- A file that cannot be opened is not read. -/
theorem readText?_closed (htree : tree = .directory entries) (hnodup : (entries.map (·.1)).Nodup)
    {name : String} {size : Nat} (hentry : (name, .closed size) ∈ entries) (hup : name ≠ "..")
    (limit : Int) : readText? tree top ⟨"/", [name]⟩ limit = none := by
  have hchild : tree.child? name = some (.closed size) := by
    rw [htree]
    exact (Entries.mem_iff_get? hnodup).mp hentry
  rw [readText?, at?_file hchild rfl hup]

/-- A run may start at the top of a tree, if the frameworks asked for are known. -/
theorem startOf_top {registry : Framework.Registry} (htree : tree = .directory entries)
    (hknown : o.frameworks.filter (!registry.ids.contains ·) = []) :
    startOf tree top registry o top = .ok top := by
  rw [startOf, FileTree.at?, lookup_top, htree]
  dsimp only
  rw [hknown, realPath_top]
  rfl

end Flat

/-- Each entry that is taken has its file. -/
theorem map_resolved_takenFrom (tree : FileTree) (o : ScanOptions) (root : FilePath) :
    (takenFrom tree o root).map (WalkFrame.resolved ⟨tree, o, root⟩) =
      (filesFrom tree o root).map some := by
  rw [filesFrom, List.map_filterMap_some_eq_filter_map_isSome]
  refine (List.filter_eq_self.mpr fun c hc => ?_).symm
  obtain ⟨path, hpath, rfl⟩ := List.mem_map.mp hc
  obtain ⟨real, t, -, -, -, hresolved⟩ :=
    WalkFrame.exists_resolved (takes_of_mem_takenFrom hpath)
  rw [hresolved]
  rfl

/-- A walk with a limit of at least one file finds the first of the files in all
entries that are taken, as many as the limit allows for, in the order of their
paths. Each of these entries has its file, under the real path of the entry. A
higher limit loses none of them. -/
theorem walk_files (tree : FileTree) {o : ScanOptions} (root : FilePath) (hmax : 1 ≤ o.maxFiles) :
    let found := filesFrom tree o root
    let w := walk tree o root
    (takenFrom tree o root).map (WalkFrame.resolved ⟨tree, o, root⟩) = found.map some ∧
      (∀ path ∈ takenFrom tree o root, ∃ real t, tree.realPath root path = some real ∧
        tree.at? root path = some t ∧ t.isFile = true ∧
        WalkFrame.resolved ⟨tree, o, root⟩ path =
          some ⟨real.text, t.size, Text.lower real.extension⟩) ∧
      w.files = (found.take o.maxFiles.toNat).mergeSort (fun a b => a.path ≤ b.path) ∧
      w.files.length = min o.maxFiles.toNat found.length ∧
      w.files.Pairwise (fun a b => a.path ≤ b.path) ∧
      (w.truncated = true ↔ o.maxFiles.toNat ≤ found.length) ∧
      ∀ more, o.maxFiles ≤ more →
        w.files.Subperm (walk tree { o with maxFiles := more } root).files := by
  intro found w
  have hw : w.files = (found.take o.maxFiles.toNat).mergeSort fun a b => a.path ≤ b.path :=
    walk_eq hmax tree root
  have hfull := (walkFrom_files hmax tree root).2
  refine ⟨map_resolved_takenFrom tree o root,
    fun path hpath => WalkFrame.exists_resolved (takes_of_mem_takenFrom hpath), hw, ?_, ?_, hfull,
    fun more hmore => ?_⟩
  · rw [hw, List.length_mergeSort, List.length_take]
  · rw [hw]
    exact pairwise_mergeSort_text Candidate.path _
  · have hmax' : 1 ≤ { o with maxFiles := more }.maxFiles := Int.le_trans hmax hmore
    have hprefix := List.take_prefix_take_left (l := found) (Int.toNat_le_toNat hmore)
    rw [hw, walk_eq hmax' tree root]
    exact ((List.mergeSort_perm _ _).subperm.trans hprefix.sublist.subperm).trans
      (List.mergeSort_perm _ _).symm.subperm

/-! ## A tree with a link -/

/-- A tree with a file, and a link to it from beside its directory. -/
def linkedTree : FileTree :=
  .directory [("api", .directory [("a.js", .file ⟨#[120]⟩)]), ("b.js", .link "api/a.js")]

/-- The file of the tree. -/
def linkedFile : Candidate := ⟨"/api/a.js", 1, ".js"⟩

/-- The way to the file. -/
def linkedWay : FileTree.Way :=
  [("a.js", .file ⟨#[120]⟩), ("api", .directory [("a.js", .file ⟨#[120]⟩)])]

theorem lookup_linkedTree (here : FilePath) :
    linkedTree.lookup here ⟨"/", ["api", "a.js"]⟩ = .ok linkedWay ∧
      linkedTree.lookup here ⟨"/", ["b.js"]⟩ = .ok linkedWay := by
  have hfile : ∀ links, linkedTree.follow links [] ["api", "a.js"] = .ok linkedWay := by
    intro links
    rw [FileTree.follow_cons ["a.js"] (by decide) (t := .directory _) rfl fun _ => nofun,
      FileTree.follow_cons [] (by decide) (t := .file _) rfl fun _ => nofun, FileTree.follow]
    rfl
  have htarget : FilePath.ofText "api/a.js" = ⟨"", ["api", "a.js"]⟩ := by decide
  have hchild : (FileTree.Way.target [] linkedTree).child? "b.js" = some (.link "api/a.js") := rfl
  refine ⟨hfile _, ?_⟩
  rw [FileTree.lookup, FileTree.fromRoot_real, FileTree.maxLinks,
    FileTree.follow_link [] (by decide) hchild, htarget]
  exact hfile _

theorem sorted_linkedTree : linkedTree.sorted = linkedTree := by
  rw [linkedTree]
  simp only [FileTree.sorted, FileTree.sortedEach, List.mergeSort_singleton]
  rw [List.mergeSort_of_pairwise (by decide)]

theorem takes_linkedTree {path : FilePath} (hlookup : linkedTree.lookup top path = .ok linkedWay)
    (hname : acceptsName {} path = true) :
    WalkFrame.takes ⟨linkedTree, {}, top⟩ path = true := by
  have hat : linkedTree.at? top path = some (.file ⟨#[120]⟩) := by
    rw [FileTree.at?, hlookup]
    rfl
  exact WalkFrame.takes_of_at? hat rfl hname rfl rfl

/-- Both entries are taken: the file below the directory, then the link. -/
theorem takenFrom_linkedTree :
    takenFrom linkedTree {} top = [⟨"/", ["api", "a.js"]⟩, ⟨"/", ["b.js"]⟩] := by
  obtain ⟨hfile, hlink⟩ := lookup_linkedTree top
  have hfile' := takes_linkedTree hfile (by decide +kernel)
  have hlink' := takes_linkedTree hlink (by decide +kernel)
  have henters : WalkFrame.enters ⟨linkedTree, {}, top⟩ "api" = true := by decide +kernel
  rw [takenFrom, lookup_top]
  change taken _ _ top linkedTree.sorted = _
  rw [sorted_linkedTree]
  change (if true && WalkFrame.enters ⟨linkedTree, {}, top⟩ "api" then
      List.filter (WalkFrame.takes ⟨linkedTree, {}, top⟩) [⟨"/", ["api", "a.js"]⟩] else []) ++ [] ++
    List.filter (WalkFrame.takes ⟨linkedTree, {}, top⟩) [⟨"/", ["b.js"]⟩] = _
  rw [henters, List.filter_singleton, List.filter_singleton, hfile', hlink']
  rfl

theorem filesFrom_linkedTree : filesFrom linkedTree {} top = [linkedFile, linkedFile] := by
  obtain ⟨hfile, hlink⟩ := lookup_linkedTree top
  have hcandidate : candidate? linkedTree top ⟨"/", ["api", "a.js"]⟩ = some linkedFile := by
    rw [candidate?, FileTree.at?, hfile]
    decide +kernel
  have hresolved : ∀ path, linkedTree.lookup top path = .ok linkedWay →
      WalkFrame.resolved ⟨linkedTree, {}, top⟩ path = some linkedFile := by
    intro path hpath
    rw [WalkFrame.resolved, FileTree.realPath_of_lookup hpath]
    exact hcandidate
  rw [filesFrom, takenFrom_linkedTree]
  simp only [List.filterMap_cons, List.filterMap_nil, hresolved _ hfile, hresolved _ hlink]

/-- A limit of one file ends the walk below the directory; a higher one finds the
file again. -/
theorem walk_files_linkedTree :
    1 ≤ ({ maxFiles := 1 } : ScanOptions).maxFiles ∧
      (walk linkedTree { maxFiles := 1 } top).files = [linkedFile] ∧
      (walk linkedTree { maxFiles := 1 } top).truncated = true ∧
      [linkedFile].Subperm (walk linkedTree { maxFiles := 2 } top).files := by
  have hmax : 1 ≤ ({ maxFiles := 1 } : ScanOptions).maxFiles := by decide
  have hfound : filesFrom linkedTree { maxFiles := 1 } top = [linkedFile, linkedFile] :=
    filesFrom_linkedTree
  obtain ⟨-, -, hfiles, -, -, hfull, hmore⟩ := walk_files linkedTree top hmax
  rw [hfound] at hfiles hfull
  have hone : (walk linkedTree { maxFiles := 1 } top).files = [linkedFile] :=
    hfiles.trans (List.mergeSort_singleton _)
  refine ⟨hmax, hone, hfull.mpr (by decide), ?_⟩
  rw [← hone]
  exact hmore 2 (by decide)

end RouteDoc
