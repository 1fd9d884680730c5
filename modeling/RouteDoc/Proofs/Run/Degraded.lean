import RouteDoc.Proofs.FileTree.Walked
import RouteDoc.Proofs.Framework.Classified
import RouteDoc.Proofs.OpenApi.Assembled
import RouteDoc.Proofs.Service.Served
import RouteDoc.Run.Scan

/-!
# Scans without a reply of use

Where a limit on the size of files is given, a scan finds the same routes whether
or not it is to ask the service. If it then gets no reply of use, it has the
document that it would have without the service.

* `discover_withService`: discovery does not look at the service;
* `method_mem_verbs_of_discover`: all routes found have known verbs, so that they
  have a document;
* `document_withService`: the two documents are the same.
-/

namespace RouteDoc

open Framework (Registry)
open Service (Script Synthesizer World)

/-! ## Discovery -/

/-- The options with the service to be asked, or not. -/
def ScanOptions.withService (o : ScanOptions) (useService : Bool) : ScanOptions :=
  { o with useService }

section Discovery

variable {o : ScanOptions} {limit : Int} (useService : Bool) (tree : FileTree)
  (here root : FilePath) (registry : Registry)

theorem sizeLimit_withService (hlimit : o.maxFileSize = some limit) :
    (o.withService useService).sizeLimit = o.sizeLimit := by
  rw [ScanOptions.sizeLimit, ScanOptions.sizeLimit, hlimit]
  exact congrArg (Option.getD · _) hlimit

theorem accepts_withService (hlimit : o.maxFileSize = some limit) (start : Option FilePath)
    (path : FilePath) :
    accepts tree here (o.withService useService) start path = accepts tree here o start path := by
  have hsize : acceptsSize (o.withService useService) = acceptsSize o := by
    funext size
    rw [acceptsSize, acceptsSize, sizeLimit_withService useService hlimit]
  rw [accepts, accepts, hsize]
  rfl

theorem fileAt?_withService (hlimit : o.maxFileSize = some limit) (path : FilePath) :
    (WalkFrame.mk tree (o.withService useService) root).fileAt? path =
      (WalkFrame.mk tree o root).fileAt? path := by
  have htakes : (WalkFrame.mk tree (o.withService useService) root).takes path =
      (WalkFrame.mk tree o root).takes path := by
    rw [WalkFrame.takes, WalkFrame.takes]
    dsimp only
    rw [accepts_withService useService tree root hlimit]
  rw [WalkFrame.fileAt?, WalkFrame.fileAt?, htakes]
  rfl

theorem walkFiles_withService (hlimit : o.maxFileSize = some limit) (path : FilePath)
    (entries : List (String × FileTree)) (h : Harvest) :
    walkFiles ⟨tree, o.withService useService, root⟩ path entries h =
      walkFiles ⟨tree, o, root⟩ path entries h := by
  induction entries generalizing h with
  | nil => rfl
  | cons entry rest ih =>
    rw [walkFiles, walkFiles, fileAt?_withService useService tree root hlimit]
    simp only [ih]
    rfl

mutual

theorem walkDirectory_withService (hlimit : o.maxFileSize = some limit) (path : FilePath) :
    (t : FileTree) → (h : Harvest) →
      walkDirectory ⟨tree, o.withService useService, root⟩ path t h =
        walkDirectory ⟨tree, o, root⟩ path t h
  | .directory entries, h => by
    have hfiles : walkFiles ⟨tree, o.withService useService, root⟩ path entries =
        walkFiles ⟨tree, o, root⟩ path entries :=
      funext (walkFiles_withService useService tree root hlimit path entries)
    rw [walkDirectory, walkDirectory, walkBelow_withService hlimit path entries, hfiles]
  | .sealed _, _ => rfl
  | .file _, _ => rfl
  | .closed _, _ => rfl
  | .link _, _ => rfl

theorem walkBelow_withService (hlimit : o.maxFileSize = some limit) (path : FilePath) :
    (entries : List (String × FileTree)) → (h : Harvest) →
      walkBelow ⟨tree, o.withService useService, root⟩ path entries h =
        walkBelow ⟨tree, o, root⟩ path entries h
  | [], _ => rfl
  | (name, t) :: rest, h => by
    have hrest : walkBelow ⟨tree, o.withService useService, root⟩ path rest =
        walkBelow ⟨tree, o, root⟩ path rest :=
      funext (walkBelow_withService hlimit path rest)
    rw [walkBelow, walkBelow, walkDirectory_withService hlimit _ t, hrest]
    rfl

end

theorem walk_withService (hlimit : o.maxFileSize = some limit) :
    walk tree (o.withService useService) root = walk tree o root := by
  have hfrom : walkFrom tree (o.withService useService) root = walkFrom tree o root := by
    rw [walkFrom, walkFrom]
    split
    · exact walkDirectory_withService useService tree root hlimit root _ _
    · rfl
  rw [walk, walk, hfrom]
  rfl

theorem inspect_withService (hlimit : o.maxFileSize = some limit) :
    inspect tree registry (o.withService useService) root = inspect tree registry o root := by
  have hclassify : ∀ path, classifyFile tree root registry (o.withService useService) path =
      classifyFile tree root registry o path := by
    intro path
    rw [classifyFile, classifyFile, sizeLimit_withService useService hlimit]
    rfl
  funext c
  rw [inspect, inspect, hclassify]

/-- Where the size of files is limited, what is found does not depend on whether
the service is to be asked. -/
theorem discover_withService (hlimit : o.maxFileSize = some limit) (path : FilePath) :
    discover tree here registry (o.withService useService) path =
      discover tree here registry o path := by
  have hstart : startOf tree here registry (o.withService useService) path =
      startOf tree here registry o path := rfl
  simp only [discover, hstart, walk_withService useService tree _ hlimit,
    inspect_withService useService tree _ registry hlimit]

end Discovery

/-! ## The routes found -/

theorem mem_verbs_of_verbOfMember {member method : String} (h : verbOfMember member = some method) :
    method ∈ verbs := by
  unfold verbOfMember at h
  split at h
  case h_9 => cases h
  all_goals
    cases h
    decide

theorem method_mem_verbs_of_inspect {tree : FileTree} {registry : Registry} {o : ScanOptions}
    {root : FilePath} {c : Candidate} {r : Route}
    (h : r ∈ (inspect tree registry o root c).extraction.routes) : r.method ∈ verbs := by
  unfold inspect at h
  extract_lets path at h
  split at h
  · split at h
    · rename_i content _ _
      dsimp only at h
      unfold extractFrom at h
      extract_lets extension at h
      split at h
      · obtain ⟨site, -, hr⟩ := List.mem_filterMap.mp h
        obtain ⟨_, _, -, -, hmethod⟩ := Framework.exists_of_routeOfCall hr
        exact mem_verbs_of_verbOfMember hmethod
      · cases h
    · cases h
  · cases h

/-- All routes found have known verbs. -/
theorem method_mem_verbs_of_discover {tree : FileTree} {here path : FilePath} {registry : Registry}
    {o : ScanOptions} {found : Discovery} (h : discover tree here registry o path = .ok found)
    {r : Route} (hr : r ∈ found.routes) : r.method ∈ verbs := by
  unfold discover at h
  cases hstart : startOf tree here registry o path with
  | error e =>
    rw [hstart] at h
    cases h
  | ok root =>
    rw [hstart] at h
    cases h
    obtain ⟨finding, hfinding, hr⟩ := List.mem_flatMap.mp hr
    obtain ⟨c, -, rfl⟩ := List.mem_map.mp hfinding
    exact method_mem_verbs_of_inspect hr

/-! ## Scans -/

/-- The request for a scan that is to ask the service, or not. -/
def ScanRequest.withService (r : ScanRequest) (useService : Bool) : ScanRequest :=
  { r with options := r.options.withService useService }

/-- The replies that the requests of a scan get, those of the network where none
are given. -/
def ScanRequest.script (r : ScanRequest) : Script := r.replies.getD unreachable

section Scan

variable {tree : FileTree} {here path : FilePath} {registry : Registry} {r : ScanRequest}

theorem scan_of_startOf_error {e : RunError}
    (h : startOf tree here registry r.options path = .error e) :
    scan tree here registry r path = .error (.run e) := by
  rw [scan, h]
  rfl

theorem scan_of_not_isPermitted {root : FilePath}
    (h : startOf tree here registry r.options path = .ok root) (hkey : r.isPermitted = false) :
    scan tree here registry r path = .error (.run .noKey) := by
  rw [scan, h, hkey]
  rfl

theorem scan_of_discover {found : Discovery}
    (h : discover tree here registry r.options path = .ok found) (hkey : r.isPermitted = true) :
    scan tree here registry r path = ScanReport.ofDiscovery r found := by
  cases hstart : startOf tree here registry r.options path with
  | error e =>
    rw [discover, hstart] at h
    cases h
  | ok root =>
    rw [scan, hstart, hkey, h]
    rfl

/-- What was found has a report if its analyses have a result. -/
theorem exists_ofDiscovery {found : Discovery} {batch : Service.BatchResult} {w : World}
    (hanalyse : analyse r found.routes = .ok (batch, w))
    (hverbs : ∀ d ∈ batch.results, d.route.method ∈ verbs) :
    ∃ report, ScanReport.ofDiscovery r found = .ok report ∧ report.world = w ∧
      report.results = batch.results ∧
      report.document = OpenApi.assembled r.info found.frameworks batch.results := by
  simp only [ScanReport.ofDiscovery, hanalyse, Except.mapError, bind, Except.bind,
    OpenApi.assemble_eq hverbs]
  exact ⟨_, rfl, rfl, rfl, rfl⟩

/-- Without the service the analyses follow from the shapes of the routes. -/
theorem analyse_withService_false (r : ScanRequest) (routes : List Route) :
    analyse (r.withService false) routes =
      .ok (Service.templateResults routes, { script := r.script }) := rfl

/-- The analyses of a run that gets no reply of use, or is stopped from the start,
are those without the service. -/
theorem exists_analyse_withService (hbatch : 1 ≤ r.settings.batchSize) (routes : List Route) :
    ∃ batch w, analyse (r.withService true) routes = .ok (batch, w) ∧
      batch.results.map (·.route) = routes ∧
      (r.stop.holds { script := r.script } = true ∨
          (∀ reply ∈ w.given r.script, reply.Fails (.ofSettings r.settings)) →
        batch.results = (Service.templateResults routes).results) := by
  cases routes with
  | nil => exact ⟨_, _, rfl, rfl, fun _ => rfl⟩
  | cons q routes =>
    exact Service.results_of_fails (.ofSettings r.settings) (.ofSettings r.settings) hbatch r.stop.holds
      (q :: routes) r.script

/-- A scan without the service has a report. -/
theorem exists_scan_withService_false {found : Discovery}
    (h : discover tree here registry (r.withService false).options path = .ok found) :
    ∃ template, scan tree here registry (r.withService false) path = .ok template ∧
      template.results = (Service.templateResults found.routes).results ∧
      template.document = OpenApi.assembled r.info found.frameworks
        (Service.templateResults found.routes).results := by
  have hverbs : ∀ d ∈ (Service.templateResults found.routes).results, d.route.method ∈ verbs := by
    intro d hd
    obtain ⟨q, hq, rfl⟩ := List.mem_map.mp hd
    exact method_mem_verbs_of_discover h hq
  obtain ⟨template, hreport, -, hresults, hdocument⟩ :=
    exists_ofDiscovery (analyse_withService_false r found.routes) hverbs
  exact ⟨template, (scan_of_discover h rfl).trans hreport, hresults, hdocument⟩

end Scan

/-! ## A tree with one route -/

/-- A source text with one route. -/
def usersText : String := "app.get('/users', list);"

/-- A tree with that text in its only file. -/
def usersTree : FileTree := .directory [("app.js", .file usersText.toUTF8)]

/-- The file of the tree. -/
def usersFile : Candidate := ⟨"/app.js", 24, ".js"⟩

/-- A request with a limit on the size of files. -/
def limitedRequest : ScanRequest := { options := { maxFileSize := some 1000 } }

theorem known_limitedRequest :
    limitedRequest.options.frameworks.filter (!Framework.builtin.ids.contains ·) = [] := by
  decide +kernel

theorem startOf_usersTree :
    startOf usersTree top Framework.builtin limitedRequest.options top = .ok top :=
  startOf_top rfl known_limitedRequest

theorem at?_usersFile : usersTree.at? top ⟨"/", ["app.js"]⟩ = some (.file usersText.toUTF8) :=
  at?_file rfl rfl (by decide)

theorem files_usersTree : (walk usersTree limitedRequest.options top).files = [usersFile] := by
  have htree : usersTree = .directory [("app.js", .file usersText.toUTF8)] := rfl
  have hfound : filesFrom usersTree limitedRequest.options top = [usersFile] := by
    rw [filesFrom_flat htree (by decide) (by decide) (by decide)
      (List.forall_mem_singleton.mpr (.inl rfl))]
    decide +kernel
  rw [walk_eq (by decide), hfound]
  exact List.mergeSort_singleton _

theorem exists_discover_usersTree : ∃ found,
    discover usersTree top Framework.builtin limitedRequest.options top = .ok found ∧
      found.routes.map (·.path) = ["/users"] := by
  have hpath : FilePath.ofText usersFile.path = ⟨"/", ["app.js"]⟩ := by decide +kernel
  have hread : readText? usersTree top ⟨"/", ["app.js"]⟩ limitedRequest.options.sizeLimit =
      some usersText.toList := by
    rw [readText?, at?_usersFile]
    decide +kernel
  have hroutes : (Framework.classify Framework.builtin limitedRequest.options.frameworks
      (FilePath.text ⟨"/", ["app.js"]⟩) usersText.toList).hasRoutes = true := by
    decide +kernel
  refine ⟨_, by rw [discover, startOf_usersTree, Except.map], ?_⟩
  simp only [Discovery.ofFindings, files_usersTree, List.map_cons, List.map_nil, List.flatMap_cons,
    List.flatMap_nil, List.append_nil, inspect, classifyFile, hpath, hread, hroutes, if_pos]
  decide +kernel

theorem exists_template_usersTree (settings : ServiceSettings) (stop : Service.Stop) :
    ∃ template, scan usersTree top Framework.builtin
        (ScanRequest.withService { limitedRequest with settings, stop } false) top =
          .ok template ∧
      template.results.map (·.route.path) = ["/users"] := by
  obtain ⟨found, hfound, hpaths⟩ := exists_discover_usersTree
  obtain ⟨template, htemplate, hresults, -⟩ := exists_scan_withService_false
    (r := { limitedRequest with settings, stop }) hfound
  refine ⟨template, htemplate, ?_⟩
  rw [hresults, ← hpaths]
  exact List.map_map

/-! ## Scans without a reply of use -/

/-- Where the size of files is limited, a scan that may ask the service fails just
as it does without it, or both have a report. If the run is stopped from the start
or gets no reply of use, then both have the same results and the same document. -/
theorem document_withService (tree : FileTree) (here path : FilePath) (registry : Registry)
    (r : ScanRequest) {limit : Int} (hlimit : r.options.maxFileSize = some limit)
    (hbatch : 1 ≤ r.settings.batchSize) (hkey : (r.withService true).isPermitted = true) :
    (∀ e, startOf tree here registry r.options path = .error e → ∀ useService,
      scan tree here registry (r.withService useService) path = .error (.run e)) ∧
    ∀ root, startOf tree here registry r.options path = .ok root →
      ∃ generative template,
        scan tree here registry (r.withService true) path = .ok generative ∧
        scan tree here registry (r.withService false) path = .ok template ∧
        (r.stop.holds { script := r.script } = true ∨
            (∀ reply ∈ generative.world.given r.script, reply.Fails (.ofSettings r.settings)) →
          generative.results = template.results ∧ generative.document = template.document) := by
  refine ⟨fun e he useService => scan_of_startOf_error he, fun root hroot => ?_⟩
  obtain ⟨found, hfound⟩ : ∃ found, discover tree here registry r.options path = .ok found := by
    rw [discover, hroot]
    exact ⟨_, rfl⟩
  have hdiscover : ∀ useService, discover tree here registry (r.withService useService).options
      path = .ok found := fun useService =>
    (discover_withService useService tree here registry hlimit path).trans hfound
  obtain ⟨template, htemplate, htemplates, hshape⟩ :=
    exists_scan_withService_false (hdiscover false)
  obtain ⟨batch, w, hanalyse, hroutes, hsame⟩ := exists_analyse_withService hbatch found.routes
  have hverbs : ∀ d ∈ batch.results, d.route.method ∈ verbs := fun d hd =>
    method_mem_verbs_of_discover hfound (hroutes ▸ List.mem_map_of_mem hd)
  obtain ⟨generative, hreport, rfl, hresults, hdocument⟩ := exists_ofDiscovery hanalyse hverbs
  refine ⟨generative, template, (scan_of_discover (hdiscover true) hkey).trans hreport, htemplate,
    fun huseless => ?_⟩
  have hbatch := hsame huseless
  exact ⟨(hresults.trans hbatch).trans htemplates.symm,
    hdocument.trans (hbatch ▸ hshape.symm)⟩

/-- The network gives no reply of use. -/
theorem fails_of_mem_given_unreachable (s : Service.Effort) {w : World} {reply : Service.Reply}
    (h : reply ∈ w.given unreachable) : reply.Fails s := by
  obtain ⟨r, hr⟩ := Script.exists_offers_of_mem_serve h
  have hkey : Script.key unreachable r = "*" := by
    rw [Script.key]
    split
    · rename_i hhas
      exact List.mem_singleton.mp (Entries.has_iff.mp hhas)
    · rfl
  rw [Script.offers, hkey] at hr
  obtain rfl := List.mem_singleton.mp hr
  exact .inr fun text he => by cases he

/-- A scan that asks over the network. -/
theorem document_withService_unreachable :
    let r := { limitedRequest with settings := { apiKey := some "key" } }
    r.options.maxFileSize = some 1000 ∧ 1 ≤ r.settings.batchSize ∧
      (r.withService true).isPermitted = true ∧
      startOf usersTree top Framework.builtin r.options top = .ok top ∧
      ∃ generative template,
        scan usersTree top Framework.builtin (r.withService true) top = .ok generative ∧
        scan usersTree top Framework.builtin (r.withService false) top = .ok template ∧
        (∀ reply ∈ generative.world.given r.script, reply.Fails (.ofSettings r.settings)) ∧
        template.results.map (·.route.path) = ["/users"] ∧
        generative.document = template.document := by
  intro r
  have hbatch : 1 ≤ r.settings.batchSize := by decide
  have hkey : (r.withService true).isPermitted = true := by decide +kernel
  obtain ⟨-, hreports⟩ :=
    document_withService usersTree top top Framework.builtin r rfl hbatch hkey
  obtain ⟨generative, template, hgenerative, htemplate, hsame⟩ := hreports top startOf_usersTree
  have hfails : ∀ reply ∈ generative.world.given r.script, reply.Fails (.ofSettings r.settings) :=
    fun reply => fails_of_mem_given_unreachable _
  obtain ⟨template', htemplate', hpaths⟩ := exists_template_usersTree r.settings r.stop
  obtain rfl : template = template' := Except.ok.inj (htemplate.symm.trans htemplate')
  exact ⟨rfl, hbatch, hkey, startOf_usersTree, generative, template, hgenerative, htemplate, hfails,
    hpaths, (hsame (.inr hfails)).2⟩

/-- Without a key, and without replies, a scan that is to ask the service does not
start, even if it is stopped from the start and so would not ask. -/
theorem scan_withoutKey :
    let r := { limitedRequest with stop := .fromStart }
    r.options.maxFileSize = some 1000 ∧ 1 ≤ r.settings.batchSize ∧ 1 ≤ r.settings.maxAttempts ∧
      r.stop.holds { script := r.script } = true ∧
      scan usersTree top Framework.builtin (r.withService true) top = .error (.run .noKey) ∧
      ∃ template, scan usersTree top Framework.builtin (r.withService false) top = .ok template ∧
        template.results.map (·.route.path) = ["/users"] := by
  intro r
  exact ⟨rfl, by decide, by decide, rfl,
    scan_of_not_isPermitted (r := r.withService true) startOf_usersTree (by decide +kernel),
    exists_template_usersTree _ _⟩

end RouteDoc
