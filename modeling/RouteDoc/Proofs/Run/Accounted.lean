import Mathlib.Algebra.BigOperators.Group.List.Basic
import RouteDoc.Proofs.FileTree.Distinct
import RouteDoc.Proofs.FileTree.Limited
import RouteDoc.Proofs.OpenApi.Replaced
import RouteDoc.Proofs.Run.Degraded

/-!
# Files accounted for

Every file that a walk finds has one verdict. It is read for routes, or there is a
reason why not; and if it is read, it has routes or a report, not both.

* `IsVerdict`, `Contributes`: what is found about one file;
* `sum_countNames`: counts add up to what is counted;
* `scan_accounts`: the files of a scan, and its counts, add up.
-/

namespace RouteDoc

open Framework (Classification Reason Registry)
open Service (BatchResult Synthesizer World)

/-! ## Single files -/

/-- Whether a verdict is complete: a file that seems to declare routes has a
framework, and another file has a reason. -/
def IsVerdict (c : Classification) : Prop :=
  (c.hasRoutes = true ∧ c.framework.isSome = true ∧ c.reason = none) ∨
    (c.hasRoutes = false ∧ ∃ reason, c.reason = some reason ∧
      reason.name ∈ ["test-file", "config-file", "unreadable", "no-routes"])

theorem Framework.Reason.name_mem (reason : Reason) :
    reason.name ∈ ["test-file", "config-file", "unreadable", "no-routes"] := by
  cases reason <;> decide

theorem isVerdict_of_reason {path : String} (reason : Reason) :
    IsVerdict { path, reason := some reason } :=
  .inr ⟨rfl, reason, rfl, reason.name_mem⟩

theorem isVerdict_verdict (s : Framework.Score) (path : String) (hasRoutes : Bool) :
    IsVerdict (s.verdict path hasRoutes) := by
  cases hasRoutes with
  | true => exact .inl ⟨rfl, rfl, rfl⟩
  | false => exact .inr ⟨rfl, .noRoutes, rfl, Reason.noRoutes.name_mem⟩

theorem isVerdict_byHints (path : String) (n : Nat) :
    IsVerdict (Framework.classify.byHints path n) :=
  .inl ⟨rfl, rfl, rfl⟩

theorem isVerdict_classify (registry : Registry) (frameworks : List String) (path : String)
    (content : List Char) : IsVerdict (Framework.classify registry frameworks path content) := by
  unfold Framework.classify
  extract_lets top clear generic
  split
  · exact isVerdict_of_reason .test
  · split
    · exact isVerdict_of_reason .config
    · cases top with
      | none =>
        dsimp only
        split
        · exact isVerdict_byHints path generic
        · exact isVerdict_of_reason .noRoutes
      | some s =>
        dsimp only
        split
        · exact isVerdict_verdict s path true
        · split
          · exact isVerdict_byHints path generic
          · exact isVerdict_verdict s path false

theorem sourceFile_of_routeOfCall {content : List Char} {file : String} {site : Site} {r : Route}
    (h : routeOfCall content file site = some r) : r.sourceFile = file :=
  (declares_of_routeOfCall h).sourceFile

/-- What is found in a text: routes of its file, or a report and no routes. -/
theorem extractFrom_cases (content : List Char) (file : String) (extension : Option String) :
    (∃ routes, extractFrom content file extension = { routes } ∧
      ∀ r ∈ routes, r.sourceFile = file) ∨
    extractFrom content file extension = { diagnostics := [.unparsable file] } := by
  unfold extractFrom
  extract_lets extension
  split
  · refine .inl ⟨_, rfl, fun r hr => ?_⟩
    obtain ⟨site, -, hroute⟩ := List.mem_filterMap.mp hr
    exact sourceFile_of_routeOfCall hroute
  · exact .inr rfl

/-- What is found about a file: a verdict, and where it seems to declare routes these
or a report. -/
structure Contributes (file : String) (f : Finding) : Prop where
  verdict : IsVerdict f.classification
  candidate : f.candidate = if f.classification.hasRoutes then some file else none
  routes : ∀ r ∈ f.extraction.routes, f.candidate = some r.sourceFile
  reports : ∀ d ∈ f.extraction.diagnostics,
    d = .unparsable file ∧ f.candidate = some file ∧ f.extraction.routes = []

theorem contributes_inspect (tree : FileTree) (registry : Registry) (o : ScanOptions)
    (root : FilePath) (c : Candidate) :
    Contributes ((FilePath.ofText c.path).wayFrom root) (inspect tree registry o root c) := by
  have hverdict : ∀ path, IsVerdict (classifyFile tree root registry o path).1 := by
    intro path
    rw [classifyFile]
    split
    · exact isVerdict_of_reason .unreadable
    · exact isVerdict_classify ..
  have hunread : ∀ path, (classifyFile tree root registry o path).2 = none →
      (classifyFile tree root registry o path).1.hasRoutes = false := by
    intro path h
    rw [classifyFile] at h ⊢
    split at h
    · rfl
    · cases h
  unfold inspect
  extract_lets path
  have hpath := hverdict path
  have hnone := hunread path
  split
  · rename_i classification content hclassify
    rw [hclassify] at hpath
    split
    · rename_i hroutes
      rcases extractFrom_cases content (path.wayFrom root) (some c.extension) with
        ⟨routes, hextract, hfile⟩ | hextract
      · rw [hextract]
        exact ⟨hpath, (if_pos hroutes).symm, fun r hr => congrArg some (hfile r hr).symm,
          List.forall_mem_nil _⟩
      · rw [hextract]
        refine ⟨hpath, (if_pos hroutes).symm, List.forall_mem_nil _, fun d hd => ?_⟩
        exact ⟨List.mem_singleton.mp hd, rfl, rfl⟩
    · rename_i hroutes
      exact ⟨hpath, (if_neg hroutes).symm, List.forall_mem_nil _, List.forall_mem_nil _⟩
  · rename_i classification hclassify
    rw [hclassify] at hpath hnone
    exact ⟨hpath, (if_neg (Bool.eq_false_iff.mp (hnone rfl))).symm, List.forall_mem_nil _,
      List.forall_mem_nil _⟩

/-! ## Counts -/

theorem sum_put (counts : Entries Nat) (name : String) :
    ((counts.put name ((counts.get? name).getD 0 + 1)).map (·.2)).sum =
      (counts.map (·.2)).sum + 1 := by
  induction counts with
  | nil => rfl
  | cons e rest ih =>
    obtain ⟨n, count⟩ := e
    rw [Entries.put, Entries.get?_cons]
    by_cases h : n = name
    · rw [if_pos (beq_iff_eq.mpr h), if_pos h, Option.getD_some, List.map_cons, List.map_cons,
        List.sum_cons, List.sum_cons]
      omega
    · rw [if_neg (mt beq_iff_eq.mp h), if_neg h, List.map_cons, List.map_cons, List.sum_cons,
        List.sum_cons, ih]
      omega

/-- The counts of names add up to their number. -/
theorem sum_countNames (names : List String) :
    ((countNames names).map (·.2)).sum = names.length := by
  have hcounts : ∀ counts : Entries Nat,
      ((names.foldl (fun e n => Entries.put e n ((Entries.get? e n).getD 0 + 1)) counts).map
        (·.2)).sum = (counts.map (·.2)).sum + names.length := by
    induction names with
    | nil => exact fun counts => rfl
    | cons name names ih =>
      intro counts
      rw [List.foldl_cons, ih, sum_put, List.length_cons]
      omega
  rw [countNames, ((List.mergeSort_perm _ _).map _).sum_eq, hcounts, List.map_nil, List.sum_nil,
    Nat.zero_add]

/-- Each file that is not read for routes has its reason counted. -/
theorem length_skipReasons {cs : List Classification} (h : ∀ c ∈ cs, IsVerdict c) :
    (cs.filterMap skipReason?).length = cs.countP (!·.hasRoutes) := by
  induction cs with
  | nil => rfl
  | cons c cs ih =>
    obtain ⟨hc, hcs⟩ := List.forall_mem_cons.mp h
    rw [List.countP_cons, ← ih hcs]
    rcases hc with ⟨hroutes, -, -⟩ | ⟨hroutes, reason, hreason, -⟩
    · have hskip : skipReason? c = none := if_pos hroutes
      rw [List.filterMap_cons, hskip, hroutes]
      rfl
    · have hskip : skipReason? c = some reason.name := by
        rw [skipReason?, hroutes, hreason]
        rfl
      rw [List.filterMap_cons, hskip, hroutes]
      rfl

/-- Whether a report is about reading a single file. -/
def Diagnostic.IsReading (d : Diagnostic) : Prop := d.code = "unreadable" ∨ d.code = "oversized"

/-- Reports on directories and on texts are counted, and no others but those about
reading single files. -/
theorem length_skipCodes {ds : List Diagnostic} (h : ∀ d ∈ ds, ¬d.IsReading) :
    (ds.filterMap skipCode?).length =
      ds.countP (·.code == "unreadable-dir") + ds.countP (·.code == "parse-error") := by
  induction ds with
  | nil => rfl
  | cons d ds ih =>
    obtain ⟨hd, hds⟩ := List.forall_mem_cons.mp h
    have hstep : ((skipCode? d).toList).length =
        (if d.code == "unreadable-dir" then 1 else 0) + if d.code == "parse-error" then 1 else 0 := by
      cases d with
      | unreadableFile _ _ => exact absurd (.inl rfl) hd
      | oversizedFile _ _ _ => exact absurd (.inr rfl) hd
      | _ => rfl
    have hcons : ((d :: ds).filterMap skipCode?).length =
        ((skipCode? d).toList).length + (ds.filterMap skipCode?).length := by
      rw [List.filterMap_cons]
      cases skipCode? d with
      | none => exact (Nat.zero_add _).symm
      | some code => exact Nat.add_comm _ 1
    rw [hcons, ih hds, hstep, List.countP_cons, List.countP_cons]
    omega

/-! ## What is discovered -/

section Discovery

variable {tree : FileTree} {here path root : FilePath} {registry : Registry} {o : ScanOptions}

theorem realPath_of_startOf (h : startOf tree here registry o path = .ok root) :
    tree.realPath here path = some root := by
  rw [startOf, FileTree.at?] at h
  cases hlookup : tree.lookup here path with
  | error fault =>
    rw [hlookup] at h
    cases h
  | ok way =>
    rw [hlookup, FileTree.realPath_of_lookup hlookup] at h
    rw [FileTree.realPath_of_lookup hlookup]
    dsimp only at h
    split at h
    · cases h
    · split at h
      · exact congrArg some (Except.ok.inj h)
      · cases h

/-- What is found about the files of a walk. -/
def findings (tree : FileTree) (registry : Registry) (o : ScanOptions) (root : FilePath) :
    List Finding :=
  (walk tree o root).files.map (inspect tree registry o root)

theorem discover_of_startOf (h : startOf tree here registry o path = .ok root) :
    discover tree here registry o path =
      .ok (.ofFindings (walk tree o root) (findings tree registry o root)) := by
  rw [discover, h]
  rfl

theorem contributes_of_mem_findings {f : Finding} (h : f ∈ findings tree registry o root) :
    ∃ c ∈ (walk tree o root).files, f = inspect tree registry o root c ∧
      Contributes ((FilePath.ofText c.path).wayFrom root) f := by
  obtain ⟨c, hc, rfl⟩ := List.mem_map.mp h
  exact ⟨c, hc, rfl, contributes_inspect tree registry o root c⟩

/-- A file is read for routes, or there is a reason why not. -/
theorem length_findings {fs : List Finding} (h : ∀ f ∈ fs, ∃ file, Contributes file f) :
    fs.length = (fs.filterMap (·.candidate)).length +
      (fs.map (·.classification)).countP (!·.hasRoutes) := by
  induction fs with
  | nil => rfl
  | cons f fs ih =>
    obtain ⟨⟨file, hf⟩, hfs⟩ := List.forall_mem_cons.mp h
    rw [List.length_cons, ih hfs, List.map_cons, List.countP_cons, List.filterMap_cons,
      hf.candidate]
    cases f.classification.hasRoutes with
    | true =>
      simp only [if_true, Bool.not_true, Bool.false_eq_true, if_false, List.length_cons]
      omega
    | false =>
      simp only [Bool.false_eq_true, if_false, Bool.not_false, if_true]
      omega

/-- What is found about a file depends on the way to it only. -/
theorem inspect_congr (hwell : tree.WellFormed) (hmax : 1 ≤ o.maxFiles) {c c' : Candidate}
    (hc : c ∈ (walk tree o root).files) (hc' : c' ∈ (walk tree o root).files)
    (hway : (FilePath.ofText c.path).wayFrom root = (FilePath.ofText c'.path).wayFrom root) :
    inspect tree registry o root c = inspect tree registry o root c' := by
  obtain ⟨names, hnames, hpath, hextension⟩ := exists_names_of_mem_files hwell hmax hc
  obtain ⟨names', hnames', hpath', hextension'⟩ := exists_names_of_mem_files hwell hmax hc'
  have hback := FilePath.ofText_text hnames
  have hback' := FilePath.ofText_text hnames'
  rw [hpath, hpath', hback, hback'] at hway
  obtain rfl : names = names' := FilePath.wayFrom_inj hnames hnames' hway
  rw [inspect, inspect, hpath, hpath', hextension, hextension']

/-- Routes come from files that are read, and none from a file with a report. -/
theorem sourceFile_of_mem_routes (hwell : tree.WellFormed) (hmax : 1 ≤ o.maxFiles) {q : Route}
    (hq : q ∈ (findings tree registry o root).flatMap (·.extraction.routes)) :
    q.sourceFile ∈ (findings tree registry o root).filterMap (·.candidate) ∧
      .unparsable q.sourceFile ∉
        (findings tree registry o root).flatMap (·.extraction.diagnostics) := by
  obtain ⟨f, hf, hq⟩ := List.mem_flatMap.mp hq
  obtain ⟨c, hc, rfl, hcontributes⟩ := contributes_of_mem_findings hf
  have hcandidate := hcontributes.routes q hq
  refine ⟨List.mem_filterMap.mpr ⟨_, hf, hcandidate⟩, fun hreport => ?_⟩
  obtain ⟨f', hf', hd⟩ := List.mem_flatMap.mp hreport
  obtain ⟨c', hc', rfl, hcontributes'⟩ := contributes_of_mem_findings hf'
  obtain ⟨hfile, -, hroutes⟩ := hcontributes'.reports _ hd
  have hway : some ((FilePath.ofText c.path).wayFrom root) = some q.sourceFile := by
    rw [← hcandidate, hcontributes.candidate]
    split
    · rfl
    · rename_i hno
      rw [hcontributes.candidate, if_neg hno] at hcandidate
      cases hcandidate
  -- Both files are the same, so that it has routes and has none.
  have hsame : inspect tree registry o root c = inspect tree registry o root c' :=
    inspect_congr hwell hmax hc hc'
      ((Option.some.inj hway).trans (Diagnostic.unparsable.inj hfile))
  rw [hsame, hroutes] at hq
  cases hq

end Discovery

/-! ## What is reported -/

theorem not_isReading_of_stage {d : Diagnostic} (h : d.stage ≠ "extract") : ¬d.IsReading := by
  cases d with
  | unreadableFile _ _ | oversizedFile _ _ _ => exact absurd rfl h
  | _ => exact not_or.mpr ⟨by simp [Diagnostic.code], by simp [Diagnostic.code]⟩

/-- Analyses report as such. -/
theorem Service.stage_of_synthesizeRoutes {pace : Service.Pace} (hsize : 1 ≤ pace.batchSize)
    {synthesizer : Synthesizer}
    (hknown : synthesizer = .template ∨ ∃ s, synthesizer = .generative s)
    {stopped : World → Bool} (hlasting : Service.Lasting stopped) {routes : List Route}
    {w w' : World} {result : BatchResult}
    (h : Service.synthesizeRoutes pace synthesizer stopped routes w = .ok (result, w'))
    {d : Diagnostic} (hd : d ∈ result.diagnostics) : d.stage = "synthesize" := by
  obtain ⟨begun, leftOut, outcomes, w'', -, houtcomes, heq, -, -⟩ :=
    Service.exists_outcomes pace synthesizer hsize hlasting routes w
  rw [heq] at h
  obtain ⟨rfl, -⟩ := Prod.mk.inj (Except.ok.inj h)
  rw [Service.diagnostics_ofOutcomes houtcomes.length_eq.ge, List.mem_append] at hd
  rcases hd with hd | hd
  · obtain ⟨o, ho, hd⟩ := List.mem_flatMap.mp hd
    rw [← List.map_snd_zip houtcomes.length_eq.ge] at ho
    obtain ⟨⟨r, o⟩, hzip, rfl⟩ := List.mem_map.mp ho
    obtain ⟨result, hends, rfl⟩ := List.forall₂_zip houtcomes hzip
    cases result with
    | ok o =>
      obtain ⟨reason, rfl⟩ := Service.fallback_of_ends hknown hends hd
      rfl
    | error crash =>
      obtain rfl := List.mem_singleton.mp hd
      rfl
  · obtain ⟨r, -, rfl⟩ := List.mem_map.mp hd
    rfl

theorem stage_of_analyse {r : ScanRequest} (hbatch : 1 ≤ r.settings.batchSize)
    {routes : List Route} {batch : BatchResult} {w : World}
    (h : analyse r routes = .ok (batch, w)) {d : Diagnostic} (hd : d ∈ batch.diagnostics) :
    d.stage = "synthesize" := by
  unfold analyse at h
  extract_lets world at h
  split at h
  · exact Service.stage_of_synthesizeRoutes hbatch (.inr ⟨_, rfl⟩) (Service.Stop.lasting _) h hd
  · obtain ⟨rfl, -⟩ := Prod.mk.inj (Except.ok.inj h)
    cases hd

theorem stage_of_mem_walk {tree : FileTree} {o : ScanOptions} {root : FilePath} {d : Diagnostic}
    (hd : d ∈ (walk tree o root).diagnostics) : d.stage = "walk" := by
  rw [diagnostics_walk, List.mem_append] at hd
  rcases hd with hd | hd
  · obtain ⟨path, reason, rfl⟩ := reports_walkFrom (Array.mem_toList_iff.mp hd)
    rfl
  · split at hd
    · obtain rfl := List.mem_singleton.mp hd
      rfl
    · cases hd

/-- What a report consists of. -/
theorem ofDiscovery_cases {r : ScanRequest} {found : Discovery} {report : ScanReport}
    (h : ScanReport.ofDiscovery r found = .ok report) :
    ∃ batch w document replaced, analyse r found.routes = .ok (batch, w) ∧
      OpenApi.assemble r.info found.frameworks batch.results = .ok (document, replaced) ∧
      report.found = found ∧
      report.diagnostics = found.diagnostics ++ batch.diagnostics ++ replaced := by
  cases hanalyse : analyse r found.routes with
  | error e =>
    simp only [ScanReport.ofDiscovery, hanalyse, Except.mapError, bind, Except.bind] at h
    cases h
  | ok result =>
    obtain ⟨batch, w⟩ := result
    cases hassemble : OpenApi.assemble r.info found.frameworks batch.results with
    | error e =>
      simp only [ScanReport.ofDiscovery, hanalyse, hassemble, Except.mapError, bind,
        Except.bind] at h
      cases h
    | ok result =>
      obtain ⟨document, replaced⟩ := result
      simp only [ScanReport.ofDiscovery, hanalyse, hassemble, Except.mapError, bind,
        Except.bind] at h
      cases h
      exact ⟨batch, w, document, replaced, rfl, hassemble, rfl, rfl⟩

/-! ## Whole scans -/

section Scan

variable {tree : FileTree} {here path root : FilePath} {registry : Registry} {r : ScanRequest}

/-- A scan that may start and may ask the service has a report. -/
theorem exists_scan {found : Discovery} (hbatch : 1 ≤ r.settings.batchSize)
    (hkey : r.isPermitted = true)
    (hfound : discover tree here registry r.options path = .ok found) :
    ∃ report, scan tree here registry r path = .ok report := by
  obtain ⟨batch, w, hanalyse, hroutes⟩ : ∃ batch w, analyse r found.routes = .ok (batch, w) ∧
      batch.results.map (·.route) = found.routes := by
    have hself : r = r.withService r.options.useService := rfl
    cases huse : r.options.useService with
    | true =>
      obtain ⟨batch, w, hanalyse, hroutes, -⟩ := exists_analyse_withService hbatch found.routes
      rw [hself, huse]
      exact ⟨batch, w, hanalyse, hroutes⟩
    | false =>
      rw [hself, huse]
      refine ⟨_, _, analyse_withService_false r found.routes, ?_⟩
      rw [Service.templateResults, List.map_map]
      exact List.map_id'' (fun _ => rfl) _
  have hverbs : ∀ d ∈ batch.results, d.route.method ∈ verbs := fun d hd =>
    method_mem_verbs_of_discover hfound (hroutes ▸ List.mem_map_of_mem hd)
  obtain ⟨report, hreport, -⟩ := exists_ofDiscovery hanalyse hverbs
  exact ⟨report, (scan_of_discover hfound hkey).trans hreport⟩

/-- A scan with a report has discovered what this says, and has reported nothing about
reading single files. -/
theorem scan_cases {found : Discovery} {report : ScanReport} (hbatch : 1 ≤ r.settings.batchSize)
    (hfound : discover tree here registry r.options path = .ok found)
    (hreads : ∀ d ∈ found.diagnostics, ¬d.IsReading)
    (h : scan tree here registry r path = .ok report) :
    report.found = found ∧ ∀ d ∈ report.diagnostics, ¬d.IsReading := by
  have hkey : r.isPermitted = true := by
    cases hkey : r.isPermitted with
    | true => rfl
    | false =>
      cases hstart : startOf tree here registry r.options path with
      | error e => rw [scan_of_startOf_error hstart] at h; cases h
      | ok root => rw [scan_of_not_isPermitted hstart hkey] at h; cases h
  rw [scan_of_discover hfound hkey] at h
  obtain ⟨batch, w, document, replaced, hanalyse, hassemble, rfl, hdiagnostics⟩ :=
    ofDiscovery_cases h
  refine ⟨rfl, fun d hd => ?_⟩
  rw [hdiagnostics, List.append_assoc, List.mem_append, List.mem_append] at hd
  rcases hd with hd | hd | hd
  · exact hreads d hd
  · refine not_isReading_of_stage ?_
    rw [stage_of_analyse hbatch hanalyse hd]
    decide
  · rw [OpenApi.reports_eq hassemble] at hd
    obtain ⟨p, before, later, rfl, -⟩ := OpenApi.mem_replacedAfter hd
    exact not_isReading_of_stage (by simp [Diagnostic.stage])

/-- Every file of a walk is accounted for once. Where a scan may start, each file has
one verdict, in the order of the walk, and is either read for routes or rejected with a
reason. Routes come from files that are read, and none from a file that is reported as
no text of any dialect. A scan that may ask the service has a report, and the counts in
any report add up to the files rejected, the directories that could not be listed and
the texts of no dialect. -/
theorem scan_accounts (hwell : tree.WellFormed) (hmax : 1 ≤ r.options.maxFiles)
    (hbatch : 1 ≤ r.settings.batchSize)
    (hstart : startOf tree here registry r.options path = .ok root) :
    let files := (walk tree r.options root).files
    ∃ found, discover tree here registry r.options path = .ok found ∧
      found.files = files.length ∧
      found.classifications.map (·.path) = files.map (·.path) ∧
      found.files = found.candidates.length + found.classifications.countP (!·.hasRoutes) ∧
      (∀ c ∈ found.classifications, IsVerdict c) ∧
      (∀ q ∈ found.routes, q.sourceFile ∈ found.candidates) ∧
      (∀ file, .unparsable file ∈ found.diagnostics →
        file ∈ found.candidates ∧ ∀ q ∈ found.routes, q.sourceFile ≠ file) ∧
      (r.isPermitted = true → ∃ report, scan tree here registry r path = .ok report) ∧
      ∀ report, scan tree here registry r path = .ok report →
        report.found = found ∧
          (report.skipped.map (·.2)).sum = (found.files - found.candidates.length) +
            report.diagnostics.countP (·.code == "unreadable-dir") +
            report.diagnostics.countP (·.code == "parse-error") := by
  intro files
  have hfound := discover_of_startOf hstart
  have hcontributes : ∀ f ∈ findings tree registry r.options root, ∃ file, Contributes file f := by
    intro f hf
    obtain ⟨c, -, -, h⟩ := contributes_of_mem_findings hf
    exact ⟨_, h⟩
  have hlength : files.length =
      ((findings tree registry r.options root).filterMap (·.candidate)).length +
        ((findings tree registry r.options root).map (·.classification)).countP (!·.hasRoutes) := by
    rw [← length_findings hcontributes, findings, List.length_map]
  have hverdicts : ∀ c ∈ (findings tree registry r.options root).map (·.classification),
      IsVerdict c := by
    intro c hc
    obtain ⟨f, hf, rfl⟩ := List.mem_map.mp hc
    obtain ⟨file, h⟩ := hcontributes f hf
    exact h.verdict
  have hreports : ∀ d ∈ (findings tree registry r.options root).flatMap (·.extraction.diagnostics),
      ∃ file, d = .unparsable file ∧
        file ∈ (findings tree registry r.options root).filterMap (·.candidate) := by
    intro d hd
    obtain ⟨f, hf, hd⟩ := List.mem_flatMap.mp hd
    obtain ⟨file, h⟩ := hcontributes f hf
    obtain ⟨rfl, hcandidate, -⟩ := h.reports d hd
    exact ⟨file, rfl, List.mem_filterMap.mpr ⟨f, hf, hcandidate⟩⟩
  have hreads : ∀ d ∈ (walk tree r.options root).diagnostics ++
      (findings tree registry r.options root).flatMap (·.extraction.diagnostics),
      ¬d.IsReading := by
    intro d hd
    rcases List.mem_append.mp hd with hd | hd
    · refine not_isReading_of_stage ?_
      rw [stage_of_mem_walk hd]
      decide
    · obtain ⟨file, rfl, -⟩ := hreports d hd
      exact not_or.mpr ⟨by simp [Diagnostic.code], by simp [Diagnostic.code]⟩
  refine ⟨_, hfound, rfl, ?_, hlength, hverdicts, fun q hq =>
    (sourceFile_of_mem_routes hwell hmax hq).1, fun file hfile => ?_,
    fun hkey => exists_scan hbatch hkey hfound, fun report hreport => ?_⟩
  · refine paths_of_discover (realPath_of_startOf hstart) (fun c hc => ?_) hfound
    obtain ⟨names, hnames, hpath, -⟩ := exists_names_of_mem_files hwell hmax hc
    rw [hpath, FilePath.ofText_text hnames]
  · have hmem : .unparsable file ∈
        (findings tree registry r.options root).flatMap (·.extraction.diagnostics) := by
      refine (List.mem_append.mp hfile).resolve_left fun hwalk => ?_
      have hstage : "extract" = "walk" := stage_of_mem_walk hwalk
      exact absurd hstage (by decide)
    obtain ⟨file', he, hcandidate⟩ := hreports _ hmem
    obtain rfl := Diagnostic.unparsable.inj he
    refine ⟨hcandidate, ?_⟩
    rintro q hq rfl
    exact (sourceFile_of_mem_routes hwell hmax hq).2 hmem
  · obtain ⟨hsame, hreads'⟩ := scan_cases hbatch hfound hreads hreport
    refine ⟨hsame, ?_⟩
    have hrejected : (report.found.classifications.filterMap skipReason?).length =
        files.length -
          ((findings tree registry r.options root).filterMap (·.candidate)).length := by
      rw [hsame, hlength, Nat.add_sub_cancel_left]
      exact length_skipReasons hverdicts
    rw [ScanReport.skipped, skippedCounts, sum_countNames, List.length_append, hrejected,
      length_skipCodes hreads', ← Nat.add_assoc]
    rfl

end Scan

/-! ## A tree with files of each kind -/

/-- A text with a route in which a bracket is missing. -/
def tornText : String := "app.get('/torn', "

/-- What is at the top of a tree: a file that is read, a test, a file that cannot be
opened, a text of no dialect, and a directory that cannot be listed. -/
def mixedEntries : List (String × FileTree) :=
  [("app.js", .file usersText.toUTF8), ("checks.js", .file "describe(f); it('lists');".toUTF8),
    ("locked.js", .closed 24), ("torn.js", .file tornText.toUTF8), ("vault", .sealed [])]

/-- A tree with these entries. -/
def mixedTree : FileTree := .directory mixedEntries

theorem wellFormed_mixedTree : mixedTree.WellFormed := by
  have hleaf : ∀ e ∈ mixedEntries, e.2.WellFormed := by
    simp only [mixedEntries, List.forall_mem_cons]
    refine ⟨?_, ?_, ?_, ?_, ?_, List.forall_mem_nil _⟩ <;>
      exact .intro (by decide) (by decide) (List.forall_mem_nil _)
  exact .intro (by decide) (by decide) hleaf

/-- The files of the tree are all found. -/
def mixedFiles : List Candidate :=
  [⟨"/app.js", 24, ".js"⟩, ⟨"/checks.js", 25, ".js"⟩, ⟨"/locked.js", 24, ".js"⟩,
    ⟨"/torn.js", 17, ".js"⟩]

theorem flat_mixedEntries : ∀ e ∈ mixedEntries, e.2.isFile = true ∨ e.2 = .sealed [] := by
  simp [mixedEntries, FileTree.isFile]

theorem filesFrom_mixedTree : filesFrom mixedTree limitedRequest.options top = mixedFiles := by
  have htree : mixedTree = .directory mixedEntries := rfl
  rw [filesFrom_flat htree (by decide) (by decide) (by decide) flat_mixedEntries]
  decide +kernel

theorem files_mixedTree : (walk mixedTree limitedRequest.options top).files = mixedFiles := by
  have htake : mixedFiles.take limitedRequest.options.maxFiles.toNat = mixedFiles := by decide
  rw [walk_eq (by decide), filesFrom_mixedTree, htake, List.mergeSort_of_pairwise (by decide)]

/-- The directory that cannot be listed is reported, and nothing else of the walk. -/
theorem codes_walk_mixedTree :
    (walk mixedTree limitedRequest.options top).diagnostics.map (·.code) = ["unreadable-dir"] := by
  let w : WalkFrame := ⟨mixedTree, limitedRequest.options, top⟩
  have henters : w.enters "vault" = true := by decide +kernel
  have hbelow : walkBelow w top mixedEntries {} =
      (Harvest.report {} ⟨"/", ["vault"]⟩ .denied, false) := by
    change (if w.enters "vault" then ((Harvest.report {} ⟨"/", ["vault"]⟩ .denied, false) : Walked)
      else ({}, false)) = _
    rw [henters, if_pos rfl]
  have hsorted : mixedTree.sorted = .directory mixedEntries :=
    FileTree.sorted_flat (by decide) fun e he => FileTree.entries_of_flat (flat_mixedEntries e he)
  have hwalk : walkFrom mixedTree limitedRequest.options top =
      walkFiles w top mixedEntries (Harvest.report {} ⟨"/", ["vault"]⟩ .denied) := by
    rw [walkFrom, lookup_top]
    change walkDirectory w top mixedTree.sorted {} = _
    rw [hsorted, walkDirectory, hbelow]
    rfl
  have hfull : (walk mixedTree limitedRequest.options top).truncated = true ↔
      1000 ≤ (filesFrom mixedTree limitedRequest.options top).length :=
    (walkFrom_files (by decide) mixedTree top).2
  have hend : (walk mixedTree limitedRequest.options top).truncated = false := by
    rw [Bool.eq_false_iff, Ne, hfull, filesFrom_mixedTree]
    decide
  rw [diagnostics_walk, hend, hwalk, reports_walkFiles]
  rfl

theorem startOf_mixedTree :
    startOf mixedTree top Framework.builtin limitedRequest.options top = .ok top :=
  startOf_top rfl known_limitedRequest

/-- What is found in the tree: two files are read, and two are rejected. -/
theorem exists_discover_mixedTree : ∃ found,
    discover mixedTree top Framework.builtin limitedRequest.options top = .ok found ∧
      found.candidates = ["app.js", "torn.js"] ∧
      found.classifications.map (·.reason) = [none, some .test, some .unreadable, none] ∧
      found.diagnostics.map (·.code) = ["unreadable-dir", "parse-error"] ∧
      found.routes.map (·.path) = ["/users"] := by
  have htree : mixedTree = .directory mixedEntries := rfl
  have hread : ∀ (name : String) (bytes : ByteArray), (name, .file bytes) ∈ mixedEntries →
      name ≠ ".." → (bytes.size : Int) ≤ limitedRequest.options.sizeLimit →
      readText? mixedTree top ⟨"/", [name]⟩ limitedRequest.options.sizeLimit =
        some (Text.decodeUtf8 bytes) := fun name bytes hentry hup hlimit =>
    readText?_top htree (by decide) hentry hup hlimit
  have happ := hread "app.js" _ List.mem_cons_self (by decide) (by decide +kernel)
  have hchecks := hread "checks.js" _ (List.mem_cons_of_mem _ List.mem_cons_self) (by decide)
    (by decide +kernel)
  have htorn := hread "torn.js" _
    (List.mem_cons_of_mem _ (List.mem_cons_of_mem _ (List.mem_cons_of_mem _ List.mem_cons_self)))
    (by decide) (by decide +kernel)
  have hlocked : readText? mixedTree top ⟨"/", ["locked.js"]⟩ limitedRequest.options.sizeLimit =
      none :=
    readText?_closed htree (by decide)
      (List.mem_cons_of_mem _ (List.mem_cons_of_mem _ List.mem_cons_self)) (by decide) _
  have hpaths : FilePath.ofText "/app.js" = ⟨"/", ["app.js"]⟩ ∧
      FilePath.ofText "/checks.js" = ⟨"/", ["checks.js"]⟩ ∧
      FilePath.ofText "/locked.js" = ⟨"/", ["locked.js"]⟩ ∧
      FilePath.ofText "/torn.js" = ⟨"/", ["torn.js"]⟩ := by
    decide +kernel
  refine ⟨_, discover_of_startOf startOf_mixedTree, ?_⟩
  simp only [Discovery.ofFindings, List.map_append, codes_walk_mixedTree]
  simp only [findings, files_mixedTree, mixedFiles, List.map_cons, List.map_nil, inspect,
    classifyFile, hpaths, happ, hchecks, htorn, hlocked]
  decide +kernel

/-- Without the service, a scan reports nothing but what is found and which declarations
are replaced. -/
theorem countP_code_of_ofDiscovery {r : ScanRequest} {found : Discovery} {report : ScanReport}
    (hservice : r.options.useService = false) (h : ScanReport.ofDiscovery r found = .ok report)
    (code : String) (hcode : code ≠ "duplicate-operation") :
    report.diagnostics.countP (·.code == code) =
      (found.diagnostics.map (·.code)).countP (· == code) := by
  obtain ⟨batch, w, document, replaced, hanalyse, hassemble, -, hdiagnostics⟩ := ofDiscovery_cases h
  have hbatch : batch.diagnostics = [] := by
    have htemplate := analyse_withService_false r found.routes
    have hself : r.withService false = r := by
      rw [← hservice]
      rfl
    rw [hself, hanalyse] at htemplate
    rw [(Prod.mk.inj (Except.ok.inj htemplate)).1]
    rfl
  have hreplaced : replaced.countP (·.code == code) = 0 := by
    refine List.countP_eq_zero.mpr fun d hd => ?_
    rw [OpenApi.reports_eq hassemble] at hd
    obtain ⟨p, before, later, rfl, -⟩ := OpenApi.mem_replacedAfter hd
    exact fun h => hcode (beq_iff_eq.mp h).symm
  rw [hdiagnostics, hbatch, List.append_nil, List.countP_append, hreplaced, Nat.add_zero,
    List.countP_map]
  rfl

/-- A scan of a tree in which one file is read, one is a test, one cannot be opened, one
is no text of any dialect, and one directory cannot be listed. -/
theorem scan_accounts_mixedTree :
    mixedTree.WellFormed ∧ 1 ≤ limitedRequest.options.maxFiles ∧
      1 ≤ limitedRequest.settings.batchSize ∧
      startOf mixedTree top Framework.builtin limitedRequest.options top = .ok top ∧
      ∃ report, scan mixedTree top Framework.builtin limitedRequest top = .ok report ∧
        report.found.files = 4 ∧ report.found.candidates = ["app.js", "torn.js"] ∧
        report.found.classifications.map (·.reason) = [none, some .test, some .unreadable, none] ∧
        report.found.diagnostics.map (·.code) = ["unreadable-dir", "parse-error"] ∧
        report.found.routes.map (·.path) = ["/users"] ∧
        (report.skipped.map (·.2)).sum = (4 - 2) + 1 + 1 := by
  have hmax : 1 ≤ limitedRequest.options.maxFiles := by decide
  have hbatch : 1 ≤ limitedRequest.settings.batchSize := by decide
  obtain ⟨found, hfound, hfiles, -, -, -, -, -, hreport, hbalance⟩ :=
    scan_accounts wellFormed_mixedTree hmax hbatch startOf_mixedTree
  obtain ⟨found', hfound', hcandidates, hreasons, hcodes, hroutes⟩ := exists_discover_mixedTree
  obtain rfl : found = found' := Except.ok.inj (hfound.symm.trans hfound')
  obtain ⟨report, hscan⟩ := hreport rfl
  obtain ⟨rfl, hsum⟩ := hbalance report hscan
  rw [files_mixedTree] at hfiles
  have hreported := (scan_of_discover hfound rfl).symm.trans hscan
  have hunlisted := countP_code_of_ofDiscovery rfl hreported "unreadable-dir" (by decide)
  have htorn := countP_code_of_ofDiscovery rfl hreported "parse-error" (by decide)
  refine ⟨wellFormed_mixedTree, hmax, hbatch, startOf_mixedTree, report, hscan, hfiles,
    hcandidates, hreasons, hcodes, hroutes, ?_⟩
  rw [hsum, hfiles, hcandidates, hunlisted, htorn, hcodes]
  decide

end RouteDoc
