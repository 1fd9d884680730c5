import RouteDoc.Proofs.OpenApi.Located
import RouteDoc.Proofs.OpenApi.Referenced
import RouteDoc.Proofs.Text.Ascii

/-!
# Codes of responses

The status codes of a refined analysis are three digits, and the responses of an
operation stand under them as they are. The last two digits may be those of any script,
so that an answer can give a code that is not a number in ASCII.

* `IsHttpStatus`: numbers from 100 to 599; they are the status codes in ASCII
  (`isHttpStatus_iff`);
* `mem_keys_mergeAnalysis`: the codes of a refined analysis are those that the answer
  gives (`answeredCodes`), or those of the baseline;
* `assemble_statusCodes`, `arabic_statusCode`: the codes in a document, when all of them
  are numbers, and one that is not.
-/

namespace RouteDoc

open Text (isDigitChar isTrimmed_trimList)

/-! ## Numbers in ASCII -/

/-- A status code of HTTP: a number from 100 to 599 in decimal. -/
def IsHttpStatus (code : String) : Prop := ∃ n : Nat, 100 ≤ n ∧ n ≤ 599 ∧ code = toString n

/-- Three digits, the first from one to five; the others may be of any script. -/
def IsThreeDigits (code : String) : Prop :=
  ∃ a b c, code.toList = [a, b, c] ∧ 49 ≤ a.toNat ∧ a.toNat ≤ 53 ∧
    isDigitChar b = true ∧ isDigitChar c = true

/-- No character beyond those of ASCII. -/
def IsAscii (s : String) : Prop := ∀ c ∈ s.toList, c.toNat < 128

instance (s : String) : Decidable (IsAscii s) := inferInstanceAs (Decidable (∀ c ∈ s.toList, _))

theorem isStatusCode_iff_of_isTrimmed {code : String} (h : Text.IsTrimmed code.toList) :
    isStatusCode code = true ↔ IsThreeDigits code := by
  have hfeed : (code.toList.getLast? == some '\n') = false := by
    refine beq_eq_false_iff_ne.mpr fun hlast => ?_
    exact Bool.false_ne_true ((h.last '\n' hlast).symm.trans (by decide))
  rw [isStatusCode, hfeed, IsThreeDigits]
  simp only [Bool.false_eq_true, if_false]
  split
  · rename_i a b c hcode
    simp only [hcode, Bool.and_eq_true, decide_eq_true_eq, List.cons.injEq, and_true, and_assoc]
    constructor
    · rintro ⟨h1, h5, hb, hc⟩
      exact ⟨a, b, c, rfl, rfl, rfl, h1, h5, hb, hc⟩
    · rintro ⟨_, _, _, rfl, rfl, rfl, h1, h5, hb, hc⟩
      exact ⟨h1, h5, hb, hc⟩
  · rename_i hne
    refine iff_of_false Bool.false_ne_true ?_
    rintro ⟨a, b, c, hcode, -⟩
    exact hne a b c hcode

/-- The digits of ASCII are those of decimal numbers. -/
theorem isDigitChar_iff_of_lt {c : Char} (hc : c.toNat < 128) :
    isDigitChar c = true ↔ ∃ d < 10, c = Nat.digitChar d := by
  have hbeyond : decide (0x80 ≤ c.toNat) = false := decide_eq_false (by omega)
  rw [isDigitChar, hbeyond, Bool.false_and, Bool.or_false]
  constructor
  · intro hdigit
    have hrange : 48 ≤ c.toNat ∧ c.toNat ≤ 57 := Char.isDigit_iff_toNat.mp hdigit
    refine ⟨c.toNat - 48, by omega, Char.toNat_inj.mp ?_⟩
    rw [Nat.toNat_digitChar_of_lt_ten (by omega)]
    omega
  · rintro ⟨d, hd, rfl⟩
    rw [Nat.isDigit_digitChar, decide_eq_true hd]

theorem toDigits_three {x y z : Nat} (hpos : 0 < x) (hx : x < 10) (hy : y < 10) (hz : z < 10) :
    Nat.toDigits 10 (10 * (10 * x + y) + z) =
      [Nat.digitChar x, Nat.digitChar y, Nat.digitChar z] := by
  rw [← Nat.toDigits_append_toDigits (by decide) (by omega) hz,
    ← Nat.toDigits_append_toDigits (by decide) hpos hy, Nat.toDigits_of_lt_base hx,
    Nat.toDigits_of_lt_base hy, Nat.toDigits_of_lt_base hz]
  rfl

theorem isHttpStatus_iff {code : String} :
    IsHttpStatus code ↔ IsThreeDigits code ∧ IsAscii code := by
  have hlow : ∀ {d : Nat}, d < 10 → (Nat.digitChar d).toNat < 128 := fun hd => by
    rw [Nat.toNat_digitChar_of_lt_ten hd]
    omega
  constructor
  · rintro ⟨n, hmin, hmax, rfl⟩
    have hn : n = 10 * (10 * (n / 100) + n / 10 % 10) + n % 10 := by omega
    have hcode : (toString n).toList =
        [Nat.digitChar (n / 100), Nat.digitChar (n / 10 % 10), Nat.digitChar (n % 10)] := by
      rw [Nat.toString_eq_repr, Nat.toList_repr,
        ← toDigits_three (by omega) (by omega) (by omega) (by omega), ← hn]
    have hfirst := Nat.toNat_digitChar_of_lt_ten (n := n / 100) (by omega)
    refine ⟨⟨_, _, _, hcode, by omega, by omega, ?_, ?_⟩, ?_⟩
    · exact (isDigitChar_iff_of_lt (hlow (by omega))).mpr ⟨n / 10 % 10, by omega, rfl⟩
    · exact (isDigitChar_iff_of_lt (hlow (by omega))).mpr ⟨n % 10, by omega, rfl⟩
    · simp only [IsAscii, hcode, List.forall_mem_cons]
      exact ⟨hlow (by omega), hlow (by omega), hlow (by omega), List.forall_mem_nil _⟩
  · rintro ⟨⟨a, b, c, hcode, hmin, hmax, hb, hc⟩, hascii⟩
    simp only [IsAscii, hcode, List.forall_mem_cons] at hascii
    obtain ⟨y, hy, rfl⟩ := (isDigitChar_iff_of_lt hascii.2.1).mp hb
    obtain ⟨z, hz, rfl⟩ := (isDigitChar_iff_of_lt hascii.2.2.1).mp hc
    have ha : a = Nat.digitChar (a.toNat - 48) := by
      apply Char.toNat_inj.mp
      rw [Nat.toNat_digitChar_of_lt_ten (by omega)]
      omega
    refine ⟨10 * (10 * (a.toNat - 48) + y) + z, by omega, by omega, String.toList_inj.mp ?_⟩
    rw [Nat.toString_eq_repr, Nat.toList_repr, toDigits_three (by omega) (by omega) hy hz, ← ha,
      hcode]

/-! ## The codes of a refined analysis -/

/-- The status codes that a field gives with a usable text, without white space around
them. -/
def codesIn : Option Json → List String
  | some (.obj fields) =>
    ((fields.filter fun e => (usableText (some e.2)).isSome).map fun e => Text.trim e.1).filter
      isStatusCode
  | _ => []

/-- The status codes that an answer gives. -/
def answeredCodes (payload : Fields) : List String := codesIn (payload.get? "statusCodes")

theorem isThreeDigits_of_mem_codesIn {v : Option Json} {code : String} (h : code ∈ codesIn v) :
    IsThreeDigits code := by
  unfold codesIn at h
  split at h
  · obtain ⟨hmem, hcode⟩ := List.mem_filter.mp h
    obtain ⟨e, -, rfl⟩ := List.mem_map.mp hmem
    have htrimmed : Text.IsTrimmed (Text.trim e.1).toList := by
      rw [Text.trim, String.toList_ofList]
      exact isTrimmed_trimList _
    exact (isStatusCode_iff_of_isTrimmed htrimmed).mp hcode
  · cases h

theorem mem_keys_statusEntries {acc : Entries String} {fields : Fields} {code : String} :
    code ∈ (statusEntries acc fields).map (·.1) ↔
      code ∈ acc.map (·.1) ∨ code ∈ codesIn (some (.obj fields)) := by
  induction fields generalizing acc with
  | nil => simp [statusEntries, codesIn]
  | cons e fields ih =>
    obtain ⟨name, text⟩ := e
    rw [codesIn] at ih ⊢
    rw [statusEntries]
    cases htext : usableText (some text) with
    | none =>
      simp only [ih, List.filter_cons, htext, Option.isSome_none, Bool.false_eq_true, if_false]
    | some t =>
      by_cases hcode : isStatusCode (Text.trim name) = true
      · simp only [ih, hcode, htext, if_true, Entries.mem_keys_put, List.filter_cons,
          Option.isSome_some, List.map_cons, List.mem_cons]
        exact or_assoc.trans or_left_comm
      · simp only [ih, hcode, htext, if_false, if_true, List.filter_cons,
          Option.isSome_some, List.map_cons, Bool.false_eq_true]

theorem mem_keys_usableStatusCodes {v : Option Json} {preset : Entries String} {code : String} :
    code ∈ ((usableStatusCodes v).getD preset).map (·.1) ↔
      code ∈ if codesIn v = [] then preset.map (·.1) else codesIn v := by
  unfold usableStatusCodes
  split
  · rename_i fields
    have hkeys : ∀ code, code ∈ (statusEntries [] fields).map (·.1) ↔
        code ∈ codesIn (some (.obj fields)) :=
      fun code => mem_keys_statusEntries.trans (or_iff_right List.not_mem_nil)
    have hnil : statusEntries [] fields = [] ↔ codesIn (some (.obj fields)) = [] := by
      rw [← List.map_eq_nil_iff (f := fun e : String × String => e.1),
        List.eq_nil_iff_forall_not_mem, List.eq_nil_iff_forall_not_mem]
      simp only [hkeys]
    split
    · rename_i h
      rw [if_pos (hnil.mp h), Option.getD_none]
    · rename_i h
      rw [if_neg (mt hnil.mpr h), Option.getD_some, hkeys]
  · rename_i hne
    have hnone : codesIn v = [] := by
      unfold codesIn
      split
      · exact absurd rfl (hne _)
      · rfl
    rw [if_pos hnone, Option.getD_none]

/-- An answer gives either all codes of the refined analysis, or none of them. -/
theorem mem_keys_mergeAnalysis {payload : Fields} {b : Analysis} {method code : String} :
    code ∈ (mergeAnalysis payload b method).statusCodes.map (·.1) ↔
      code ∈ if answeredCodes payload = [] then b.statusCodes.map (·.1)
        else answeredCodes payload :=
  mem_keys_usableStatusCodes

theorem isHttpStatus_of_mem_template {r : Route} {code : String}
    (h : code ∈ (templateAnalysis r).statusCodes.map (·.1)) : IsHttpStatus code := by
  have hall : ∀ code ∈ ["200", "201", "204", "400", "404", "500"], IsHttpStatus code := by
    simp only [List.forall_mem_cons]
    exact ⟨⟨200, by decide⟩, ⟨201, by decide⟩, ⟨204, by decide⟩, ⟨400, by decide⟩,
      ⟨404, by decide⟩, ⟨500, by decide⟩, List.forall_mem_nil _⟩
  refine hall code ?_
  change code ∈ (templateStatusCodes r).map (·.1) at h
  revert h
  rw [templateStatusCodes]
  split_ifs <;> simp +contextual [or_imp]

section

variable {payload : Fields} {r : Route}

theorem isThreeDigits_of_mem_merged {code : String}
    (h : code ∈ (mergeAnalysis payload (templateAnalysis r) r.method).statusCodes.map (·.1)) :
    IsThreeDigits code := by
  rw [mem_keys_mergeAnalysis] at h
  split at h
  · exact (isHttpStatus_iff.mp (isHttpStatus_of_mem_template h)).1
  · exact isThreeDigits_of_mem_codesIn h

/-- The codes of a refined analysis are numbers if those that the answer gives are in
ASCII. -/
theorem isHttpStatus_merged_iff :
    (∀ code ∈ (mergeAnalysis payload (templateAnalysis r) r.method).statusCodes.map (·.1),
        IsHttpStatus code) ↔ ∀ code ∈ answeredCodes payload, IsAscii code := by
  simp only [mem_keys_mergeAnalysis]
  split
  · rename_i hnil
    rw [hnil]
    exact iff_of_true (fun code => isHttpStatus_of_mem_template) (List.forall_mem_nil _)
  · refine forall₂_congr fun code hcode => ?_
    rw [isHttpStatus_iff, and_iff_right (isThreeDigits_of_mem_codesIn hcode)]

end

/-! ## The codes of a document -/

namespace OpenApi

/-- The keys of the responses of an operation. -/
def responseCodes (operation : Json) : List String :=
  ((operation.get? "responses").getD .null).fieldsOf.map (·.1)

theorem responseCodes_toJson (o : Operation) :
    responseCodes o.toJson = o.responses.map (·.1) := by
  rw [responseCodes, get?_responses_toJson]
  exact List.map_map

/-- The responses of an operation stand under the codes of its analysis. -/
theorem perm_keys_operationResponses {a : Analysis} (h : a.statusCodes ≠ [])
    (schema : Option String) :
    ((operationResponses a schema).map (·.1)).Perm (a.statusCodes.map (·.1)) := by
  have hperm := List.mergeSort_perm a.statusCodes fun x y => x.1 ≤ y.1
  rw [operationResponses]
  split
  · rename_i hnil
    rw [hnil] at hperm
    exact absurd (List.nil_perm.mp hperm) h
  · rename_i hcodes
    rw [List.map_map]
    exact hperm.map _

/-- A route with its analysis refined by an answer. -/
def answeredRoute (r : Route) (payload : Fields) : DocumentedRoute :=
  ⟨r, mergeAnalysis payload (templateAnalysis r) r.method, .generative⟩

/-- Routes with their analyses refined. -/
def answeredRoutes (answers : List (Route × Fields)) : List DocumentedRoute :=
  answers.map fun a => answeredRoute a.1 a.2

theorem statusCodes_answeredRoute_ne_nil (r : Route) (payload : Fields) :
    (answeredRoute r payload).analysis.statusCodes ≠ [] :=
  ((complete_templateAnalysis r).merge payload).statusCodes

section

variable {info : DocumentInfo} {frameworks : List String} {answers : List (Route × Fields)}
  (hmethods : ∀ d ∈ answeredRoutes answers, d.route.method ∈ verbs)
include hmethods

/-- The responses of each operation in a document of refined routes stand under the codes
of the analysis that counts. -/
theorem exists_answer_of_mem {path : String} {item : Entries Operation} {verb : String}
    {o : Operation}
    (hitem : (path, item) ∈ (assembled info frameworks (answeredRoutes answers)).paths)
    (ho : (verb, o) ∈ item) :
    ∃ single, ∃ a ∈ answers, Text.lower single = verb ∧
      governing (answeredRoutes answers) path single = some (answeredRoute a.1 a.2) ∧
      (responseCodes o.toJson).Perm
        ((answeredRoute a.1 a.2).analysis.statusCodes.map (·.1)) := by
  have hverb : verb ∈ singleVerbs.map Text.lower := by
    have hmem := List.mem_map_of_mem (f := fun e : String × Operation => e.1) ho
    rw [map_fst_item hmethods hitem] at hmem
    exact map_lower_singleVerbs ▸ (map_lower_governed_sublist _ path).mem hmem
  obtain ⟨single, hsingle, rfl⟩ := List.mem_map.mp hverb
  obtain ⟨d, hgoverning, p, rfl⟩ := documents_of_mem hmethods hitem hsingle ho
  obtain ⟨a, ha, rfl⟩ := List.mem_map.mp (mem_of_governing hgoverning).1
  refine ⟨single, a, ha, rfl, hgoverning, ?_⟩
  rw [responseCodes_toJson, (describe_schemas p _).2.1]
  exact perm_keys_operationResponses (statusCodes_answeredRoute_ne_nil a.1 a.2) _

end

/-- Whatever an answer holds, the codes of the refined analysis of a route are three digits,
the first from one to five in ASCII. They are numbers from 100 to 599 exactly if those that
the answer gives are in ASCII. The responses of each operation in a document stand under
the codes of the analysis that counts. -/
theorem assemble_statusCodes (info : DocumentInfo) (frameworks : List String)
    (answers : List (Route × Fields)) :
    (∀ r payload,
      (∀ code ∈ (answeredRoute r payload).analysis.statusCodes.map (·.1), IsThreeDigits code) ∧
        ((∀ code ∈ (answeredRoute r payload).analysis.statusCodes.map (·.1),
            IsHttpStatus code) ↔ ∀ code ∈ answeredCodes payload, IsAscii code)) ∧
      ((∀ a ∈ answers, a.1.method ∈ verbs) →
        ∃ doc reports,
          assemble info frameworks (answeredRoutes answers) = .ok (doc, reports) ∧
            ∀ path item verb o, (path, item) ∈ doc.paths → (verb, o) ∈ item →
              ∃ single, ∃ a ∈ answers, Text.lower single = verb ∧
                governing (answeredRoutes answers) path single = some (answeredRoute a.1 a.2) ∧
                (responseCodes o.toJson).Perm
                  ((answeredRoute a.1 a.2).analysis.statusCodes.map (·.1)) ∧
                ((∀ code ∈ responseCodes o.toJson, IsHttpStatus code) ↔
                  ∀ code ∈ answeredCodes a.2, IsAscii code)) := by
  refine ⟨fun r payload => ⟨fun code => isThreeDigits_of_mem_merged, isHttpStatus_merged_iff⟩,
    fun hanswers => ?_⟩
  have hmethods : ∀ d ∈ answeredRoutes answers, d.route.method ∈ verbs :=
    List.forall_mem_map.mpr hanswers
  refine ⟨_, _, assemble_eq hmethods info frameworks, fun path item verb o hitem ho => ?_⟩
  obtain ⟨single, a, ha, hverb, hgoverning, hperm⟩ := exists_answer_of_mem hmethods hitem ho
  refine ⟨single, a, ha, hverb, hgoverning, hperm, ?_⟩
  simp only [hperm.mem_iff]
  exact isHttpStatus_merged_iff

/-- An answer with white space around a code, and one that is no status code. -/
def spacedCodes : Fields :=
  [("statusCodes", .obj [(" 404 ", .str "Missing"), ("ok", .str "no number")])]

theorem assemble_statusCodes_spaced :
    (∀ a ∈ [(routeOfUsers, spacedCodes)], a.1.method ∈ verbs) ∧
      (∀ code ∈ answeredCodes spacedCodes, IsAscii code) ∧
        ∃ doc reports, assemble {} [] (answeredRoutes [(routeOfUsers, spacedCodes)]) =
            .ok (doc, reports) ∧
          ∀ path item verb o, (path, item) ∈ doc.paths → (verb, o) ∈ item →
            ∀ code ∈ responseCodes o.toJson, IsHttpStatus code := by
  have hmethod : ∀ a ∈ [(routeOfUsers, spacedCodes)], a.1.method ∈ verbs := by decide
  have hascii : ∀ code ∈ answeredCodes spacedCodes, IsAscii code := by decide
  obtain ⟨doc, reports, hok, hall⟩ :=
    (assemble_statusCodes {} [] [(routeOfUsers, spacedCodes)]).2 hmethod
  refine ⟨hmethod, hascii, doc, reports, hok, fun path item verb o hitem ho => ?_⟩
  obtain ⟨single, a, ha, -, -, -, hiff⟩ := hall path item verb o hitem ho
  obtain rfl := List.mem_singleton.mp ha
  exact hiff.mpr hascii

/-- An answer whose code ends in Arabic digits. -/
def arabicCode : Fields := [("statusCodes", .obj [("2٠٠", .str "OK")])]

/-- In a document the response of a route stands under a code that is not a number in
ASCII. -/
theorem arabic_statusCode :
    (answeredRoute routeOfUsers arabicCode).analysis.statusCodes.map (·.1) = ["2٠٠"] ∧
      ¬ IsHttpStatus "2٠٠" ∧
      ∃ doc reports item o,
        assemble {} [] (answeredRoutes [(routeOfUsers, arabicCode)]) = .ok (doc, reports) ∧
          ("/users", item) ∈ doc.paths ∧ ("get", o) ∈ item ∧
            responseCodes o.toJson = ["2٠٠"] := by
  have hcodes : (answeredRoute routeOfUsers arabicCode).analysis.statusCodes.map (·.1) =
      ["2٠٠"] := by decide +kernel
  have hmethods : ∀ d ∈ answeredRoutes [(routeOfUsers, arabicCode)],
      d.route.method ∈ verbs := by decide
  have hpath : "/users" ∈ (assembled {} [] (answeredRoutes [(routeOfUsers, arabicCode)])).paths.map
      (·.1) := by
    rw [map_fst_assembled_paths hmethods, mem_pathsOf]
    exact ⟨_, List.mem_cons_self, by decide⟩
  obtain ⟨⟨path, item⟩, hitem, rfl⟩ := List.mem_map.mp hpath
  have hverb : "get" ∈ item.map (·.1) := by
    rw [map_fst_item hmethods hitem]
    decide
  obtain ⟨⟨verb, o⟩, ho, rfl⟩ := List.mem_map.mp hverb
  obtain ⟨single, a, ha, -, -, hperm⟩ := exists_answer_of_mem hmethods hitem ho
  obtain rfl := List.mem_singleton.mp ha
  rw [hcodes] at hperm
  exact ⟨hcodes, fun h => absurd (isHttpStatus_iff.mp h).2 (by decide), _, _, item, o,
    assemble_eq hmethods {} [], hitem, ho, List.perm_singleton.mp hperm⟩

end OpenApi

end RouteDoc
