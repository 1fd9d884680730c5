import RouteDoc.Proofs.Analysis.Refined
import RouteDoc.Proofs.OpenApi.Parameters
import RouteDoc.Proofs.Settings

/-!
# Where answers locate parameters

An answer of the service may list parameters of its own and say where each of them
stands. Nothing holds that against the path of the route, so that an answer can put any
name into the path, but only by saying so or by saying nothing.

* `Parameter.of_check`: what an object has to say for a parameter to be taken from it;
* `mem_parameters_mergeAnalysis`: the parameters of a refined analysis;
* `describeOperation_locates`, `unknown_in_path`: which names stand in the path of an
  operation, and one that its route does not have.
-/

namespace RouteDoc

namespace Record

theorem readText_eq_valid {j : Json} {s : String} : readText j = .valid s ↔ j = .str s := by
  constructor
  · intro h
    cases j with
    | str s' => exact congrArg Json.str (Checked.valid.inj h)
    | _ => cases h
  · rintro rfl
    rfl

section

variable {α : Type} {fields : Fields} {read : Json → Checked α} {a : α}

/-- What a field that may not be missing holds. -/
theorem get?_of_requiredField {name : String} (h : requiredField fields name read = .valid a) :
    ∃ j, fields.get? name = some j ∧ read j = .valid a := by
  unfold requiredField at h
  split at h
  · rename_i j hj
    exact ⟨j, hj, Checked.within_eq_valid.mp h⟩
  · cases h

/-- What a field of several names holds, or that there is none. -/
theorem fieldUnder_of_fieldNamed {names : List String} {preset : α}
    (h : fieldNamed fields names read preset = .valid a) :
    (fieldUnder fields names = none ∧ a = preset) ∨
      ∃ n j, fieldUnder fields names = some (n, j) ∧ read j = .valid a := by
  unfold fieldNamed at h
  split at h
  · rename_i n j hj
    exact .inr ⟨n, j, hj, Checked.within_eq_valid.mp h⟩
  · rename_i hnone
    exact .inl ⟨hnone, (Checked.valid.inj h).symm⟩

end

end Record

open Record

/-! ## Parameters from objects -/

/-- The location that an object gives for a parameter. The field goes by two names, of
which the first counts. -/
def givenLocation (item : Json) : Option Json := (item.get? "in").or (item.get? "location")

theorem fieldUnder_location (fields : Fields) :
    (fieldUnder fields ["in", "location"]).map (·.2) = givenLocation (.obj fields) := by
  simp only [fieldUnder, givenLocation, Json.get?]
  cases fields.get? "in" with
  | some j => rfl
  | none => cases fields.get? "location" <;> rfl

/-- An object of which a parameter is taken names it, and gives it the location that it
has; without one the parameter stands in the path. -/
theorem Parameter.of_check {item : Json} {p : Parameter} (h : Parameter.check item = .valid p) :
    item.get? "name" = some (.str p.name) ∧
      ((givenLocation item = none ∧ p.location = "path") ∨
        givenLocation item = some (.str p.location)) := by
  cases item with
  | obj fields =>
    rw [Parameter.check] at h
    obtain ⟨f₄, description, hf₄, -, rfl⟩ := Checked.seq_eq_valid.mp h
    obtain ⟨f₃, required, hf₃, -, rfl⟩ := Checked.seq_eq_valid.mp hf₄
    obtain ⟨f₂, type, hf₂, -, rfl⟩ := Checked.seq_eq_valid.mp hf₃
    obtain ⟨f₁, location, hf₁, hlocation, rfl⟩ := Checked.seq_eq_valid.mp hf₂
    obtain ⟨name, hname, rfl⟩ := Checked.map_eq_valid.mp hf₁
    obtain ⟨j, hj, htext⟩ := get?_of_requiredField hname
    refine ⟨hj.trans (congrArg some (readText_eq_valid.mp htext)), ?_⟩
    rw [← fieldUnder_location]
    rcases fieldUnder_of_fieldNamed hlocation with ⟨hnone, rfl⟩ | ⟨n, j, hsome, htext⟩
    · exact .inl ⟨by rw [hnone]; rfl, rfl⟩
    · exact .inr (by rw [hsome, readText_eq_valid.mp htext]; rfl)
  | _ => cases h

/-! ## Parameters of refined analyses -/

/-- What an answer lists as parameters. -/
def listedParameters (payload : Fields) : List Json :=
  match payload.get? "parameters" with
  | some (.arr items) => items
  | _ => []

theorem value?_eq_some {α : Type} {c : Checked α} {a : α} : c.value? = some a ↔ c = .valid a := by
  cases c <;> simp [Checked.value?]

/-- Every parameter of a refined analysis is of the baseline, or was taken from what the
answer lists. -/
theorem mem_parameters_mergeAnalysis {payload : Fields} {b : Analysis} {method : String}
    {p : Parameter} (h : p ∈ (mergeAnalysis payload b method).parameters) :
    p ∈ b.parameters ∨ ∃ item ∈ listedParameters payload, Parameter.check item = .valid p := by
  rw [parameters_mergeAnalysis, completeParameters_eq, List.mem_append] at h
  rcases h with h | h
  · unfold usableParameters at h
    split at h
    · rename_i items hitems
      have hlisted : listedParameters payload = items := by
        rw [listedParameters, hitems]
      obtain ⟨item, hitem, hp⟩ := List.mem_filterMap.mp h
      exact .inr ⟨item, hlisted ▸ hitem, value?_eq_some.mp hp⟩
    · exact .inl h
  · exact .inl (mem_missingParameters.mp h).1

/-- What can be taken from the list of an answer is. -/
theorem mem_mergeAnalysis_of_check {payload : Fields} (b : Analysis) (method : String)
    {item : Json} (hitem : item ∈ listedParameters payload) {p : Parameter}
    (hp : Parameter.check item = .valid p) :
    p ∈ (mergeAnalysis payload b method).parameters := by
  rw [parameters_mergeAnalysis, completeParameters_eq]
  unfold listedParameters at hitem
  split at hitem
  · rename_i items hitems
    rw [hitems]
    exact List.mem_append_left _ (List.mem_filterMap.mpr ⟨item, hitem, value?_eq_some.mpr hp⟩)
  · cases hitem

/-! ## Names in the path of an operation -/

namespace OpenApi

/-- Whatever an answer holds, what the operation of a route has in its path is named in
the path of the route, or by something the answer lists and does not locate elsewhere.
What an answer itself locates in the path stands there, if a parameter can be taken
from it. -/
theorem describeOperation_locates (s : Schemas) (id verb : String) (r : Route) (payload : Fields)
    (strategy : Strategy) :
    ∃ entries,
      (describeOperation s id verb
          ⟨r, mergeAnalysis payload (templateAnalysis r) r.method, strategy⟩).1.toJson.get?
        "parameters" = some (.arr entries) ∧
      (∀ e ∈ entries, e.get? "in" = some (.str "path") →
        ∃ name, e.get? "name" = some (.str name) ∧
          (name ∈ r.parameters.map (·.name) ∨
            ∃ item ∈ listedParameters payload, item.get? "name" = some (.str name) ∧
              (givenLocation item = none ∨ givenLocation item = some (.str "path")))) ∧
      ∀ item ∈ listedParameters payload, ∀ p, Parameter.check item = .valid p →
        givenLocation item = some (.str "path") →
          ∃ e ∈ entries, e.get? "name" = some (.str p.name) ∧
            e.get? "in" = some (.str "path") := by
  refine ⟨(operationParameters r (mergeAnalysis payload (templateAnalysis r) r.method)).map
    parameterJson, rfl, fun e he hin => ?_, fun item hitem p hp hlocation => ?_⟩
  · obtain ⟨q, hq, rfl⟩ := List.mem_map.mp he
    have hpath : q.location = "path" := by simpa using hin
    have hname : q.name ∈ pathNames _ := mem_pathNames.mpr (List.mem_map.mpr
      ⟨q, hq, Prod.ext rfl hpath⟩)
    refine ⟨q.name, get?_name_parameterJson q, ?_⟩
    rcases mem_pathNames_operationParameters.mp hname with hroute | hanalysis
    · exact .inl hroute
    · obtain ⟨p, hp, hkey⟩ := List.mem_map.mp (mem_pathNames.mp hanalysis)
      obtain ⟨hpname, hplocation⟩ := Prod.mk.inj hkey
      rcases mem_parameters_mergeAnalysis hp with hbase | ⟨item, hitem, hcheck⟩
      · obtain ⟨p', hp', rfl⟩ := List.mem_map.mp hbase
        exact .inl (hpname ▸ List.mem_map_of_mem hp')
      · obtain ⟨hnamed, hlocated⟩ := Parameter.of_check hcheck
        exact .inr ⟨item, hitem, hpname ▸ hnamed, hlocated.imp And.left (hplocation ▸ ·)⟩
  · have hplocation : p.location = "path" := by
      rcases (Parameter.of_check hp).2 with ⟨hnone, -⟩ | hsome
      · rw [hnone] at hlocation
        cases hlocation
      · exact Json.str.inj (Option.some.inj (hsome.symm.trans hlocation))
    have hname : p.name ∈ pathNames
        (operationParameters r (mergeAnalysis payload (templateAnalysis r) r.method)) :=
      mem_pathNames_operationParameters.mpr (.inr (mem_pathNames.mpr (List.mem_map.mpr
        ⟨p, mem_mergeAnalysis_of_check _ _ hitem hp, Prod.ext rfl hplocation⟩)))
    obtain ⟨q, hq, hkey⟩ := List.mem_map.mp (mem_pathNames.mp hname)
    obtain ⟨hqname, hqlocation⟩ := Prod.mk.inj hkey
    exact ⟨parameterJson q, List.mem_map_of_mem hq, by simp [hqname], by simp [hqlocation]⟩

/-- A route without a name in its path. -/
def routeOfUsers : Route := { method := "GET", path := "/users" }

/-- An answer that puts a name into the path. -/
def limitInPath : Fields :=
  [("parameters", .arr [.obj [("name", .str "limit"), ("in", .str "path")]])]

/-- The operation of a route has a name in its path that only an answer puts there. -/
theorem unknown_in_path :
    ∃ entries,
      (describeOperation {} "get_users" "GET" ⟨routeOfUsers, mergeAnalysis limitInPath
          (templateAnalysis routeOfUsers) routeOfUsers.method, .generative⟩).1.toJson.get?
        "parameters" = some (.arr entries) ∧
      ∃ e ∈ entries, e.get? "in" = some (.str "path") ∧ e.get? "name" = some (.str "limit") ∧
        "limit" ∉ routeOfUsers.parameters.map (·.name) := by
  have hlisted : operationParameters routeOfUsers
      (mergeAnalysis limitInPath (templateAnalysis routeOfUsers) routeOfUsers.method) =
        [{ name := "limit" }] := by decide
  have hentry : parameterJson { name := "limit" } ∈ (operationParameters routeOfUsers
      (mergeAnalysis limitInPath (templateAnalysis routeOfUsers) routeOfUsers.method)).map
        parameterJson := hlisted ▸ List.mem_cons_self
  exact ⟨_, rfl, _, hentry, rfl, rfl, by decide⟩

end OpenApi

end RouteDoc
