import RouteDoc.Analysis.Basic
import RouteDoc.Text.Blank
import RouteDoc.Text.Letters

/-!
# Refining an analysis

An answer of the service refines the analysis of a route by those of its
fields that are usable. The result is always complete.

* `usableText`, `usableTags`, `usableParameters`, `usableStatusCodes`: the
  fields that are taken over;
* `mergeAnalysis`: the refined analysis.
-/

namespace RouteDoc

/-- Text that is not blank, without white space around it. -/
def usableText : Option Json → Option String
  | some (.str s) => if Text.isBlankText s then none else some (Text.trim s)
  | _ => none

/-- All items mapped, if each can be. -/
def mapAll {α β : Type} (f : α → Option β) : List α → Option (List β)
  | [] => some []
  | x :: xs =>
    match f x, mapAll f xs with
    | some y, some ys => some (y :: ys)
    | _, _ => none

/-- Tags, if there is at least one and none is blank. -/
def usableTags : Option Json → Option (List String)
  | some (.arr []) => none
  | some (.arr ts) => mapAll (fun t => usableText (some t)) ts
  | _ => none

/-- Parameters, less those that are malformed. -/
def usableParameters : Option Json → Option (List Parameter)
  | some (.arr ps) => some (ps.filterMap fun p => (Parameter.check p).value?)
  | _ => none

/-- The parameters with those of `baseline` that are missing at the end. -/
def completeParameters (parameters baseline : List Parameter) : List Parameter :=
  parameters ++ baseline.filter fun p => !(parameters.any (·.name == p.name))

/-- A schema that is not empty. -/
def usableSchema : Option Json → Option Fields
  | some (.obj []) => none
  | some (.obj fields) => some fields
  | _ => none

/-- Whether a text is a status code: three digits, the first from one to five,
and perhaps a line feed. -/
def isStatusCode (code : String) : Bool :=
  let cs := code.toList
  let cs := if cs.getLast? == some '\n' then cs.dropLast else cs
  match cs with
  | [a, b, c] => '1' ≤ a && a ≤ '5' && Text.isDigitChar b && Text.isDigitChar c
  | _ => false

/-- Status codes with texts that are not blank. -/
def statusEntries : Entries String → Fields → Entries String
  | acc, [] => acc
  | acc, (code, text) :: rest =>
    let code := Text.trim code
    match usableText (some text) with
    | some t => statusEntries (if isStatusCode code then acc.put code t else acc) rest
    | none => statusEntries acc rest

/-- Status codes, if there is at least one. -/
def usableStatusCodes : Option Json → Option (Entries String)
  | some (.obj fields) =>
    match statusEntries [] fields with
    | [] => none
    | entries => some entries
  | _ => none

/-- The baseline refined by the usable fields of an answer. Parameters of the
baseline stay; a verb without a body has no request schema. -/
def mergeAnalysis (payload : Fields) (baseline : Analysis) (method : String) : Analysis :=
  let parameters := (usableParameters (payload.get? "parameters")).getD baseline.parameters
  let requestSchema :=
    match usableSchema (payload.get? "requestSchema") with
    | some schema => some schema
    | none => baseline.requestSchema
  let examples :=
    match payload.get? "examples" with
    | some (.obj fields) =>
      { request := (Entries.get? fields "request").getD baseline.examples.request
        response := (Entries.get? fields "response").getD baseline.examples.response }
    | _ => baseline.examples
  { summary := (usableText (payload.get? "summary")).getD baseline.summary
    description := (usableText (payload.get? "description")).getD baseline.description
    tags := (usableTags (payload.get? "tags")).getD baseline.tags
    parameters := completeParameters parameters baseline.parameters
    requestSchema := if bodyVerbs.contains method then requestSchema else none
    responseSchema := (usableSchema (payload.get? "responseSchema")).getD baseline.responseSchema
    statusCodes := (usableStatusCodes (payload.get? "statusCodes")).getD baseline.statusCodes
    examples }

end RouteDoc
