import RouteDoc.Analysis.Basic
import RouteDoc.Proofs.Entries

/-!
# Analyses as records

An analysis is written as an object of its fields, and its check takes it from there as
it is.

* `Parameter.toJson`, `Examples.toJson`, `Analysis.toJson`: the objects;
* `Parameter.check_toJson`, `Examples.check_toJson`, `Analysis.check_toJson`: they pass
  their checks.
-/

namespace RouteDoc

namespace Record

@[simp] theorem Checked.map_valid {α β : Type} (f : α → β) (a : α) :
    f <$> Checked.valid a = .valid (f a) := rfl

@[simp] theorem Checked.seq_valid {α β : Type} (f : α → β) (a : α) :
    Checked.valid f <*> .valid a = .valid (f a) := rfl

@[simp] theorem Checked.within_valid {α : Type} (k : Key) (a : α) :
    (Checked.valid a).within k = .valid a := rfl

@[simp] theorem readText_str (s : String) : readText (.str s) = .valid s := rfl

@[simp] theorem readFlag_bool (b : Bool) : readFlag (.bool b) = .valid b := rfl

@[simp] theorem readAny_eq (j : Json) : readAny j = .valid j := rfl

section

variable {α : Type} {read : Json → Checked α} {write : α → Json}
  (h : ∀ a, read (write a) = .valid a)
include h

/-- Items that were written are read back. -/
theorem readItems_map (n : Nat) (as : List α) :
    readItems read n (as.map write) = .valid as := by
  induction as generalizing n with
  | nil => rfl
  | cons a as ih => simp [readItems, h, ih]

theorem readList_map (as : List α) : readList read (.arr (as.map write)) = .valid as :=
  readItems_map h 0 as

/-- Entries that were written are read back under their names. -/
theorem readEntries_map (es : Entries α) :
    readEntries read (es.map fun e => (e.1, write e.2)) = .valid es := by
  induction es with
  | nil => rfl
  | cons e es ih => simp [readEntries, h, ih]

theorem readDictionary_map (es : Entries α) :
    readDictionary read (.obj (es.map fun e => (e.1, write e.2))) = .valid es :=
  readEntries_map h es

end

theorem readDictionary_obj (fields : Fields) :
    readDictionary readAny (.obj fields) = .valid fields := by
  have h : readDictionary readAny (.obj (fields.map fun e => (e.1, id e.2))) = .valid fields :=
    readDictionary_map readAny_eq fields
  simpa using h

end Record

open Record

/-- A parameter as an object of its fields. -/
def Parameter.toJson (p : Parameter) : Json :=
  .obj [("name", .str p.name), ("in", .str p.location), ("type", .str p.type),
    ("required", .bool p.required), ("description", .str p.description)]

/-- Samples as an object. -/
def Examples.toJson (e : Examples) : Json :=
  .obj [("request", e.request), ("response", e.response)]

/-- An analysis as an object of its fields. -/
def Analysis.toJson (a : Analysis) : Json :=
  .obj [("summary", .str a.summary), ("description", .str a.description),
    ("tags", .strings a.tags), ("parameters", .arr (a.parameters.map Parameter.toJson)),
    ("requestSchema", (a.requestSchema.map Json.obj).getD .null),
    ("responseSchema", .obj a.responseSchema),
    ("statusCodes", .obj (a.statusCodes.map fun c => (c.1, .str c.2))),
    ("examples", a.examples.toJson)]

theorem Parameter.check_toJson (p : Parameter) : Parameter.check p.toJson = .valid p := by
  simp [Parameter.check, Parameter.toJson, requiredField, field, fieldNamed, fieldUnder,
    Entries.get?_cons]

theorem Examples.check_toJson (e : Examples) : Examples.check e.toJson = .valid e := by
  simp [Examples.check, Examples.toJson, field, fieldNamed, fieldUnder, Entries.get?_cons]

/-- Every analysis passes its check. -/
theorem Analysis.check_toJson (a : Analysis) : Analysis.check a.toJson = .valid a := by
  have htags : readList readText (.strings a.tags) = .valid a.tags :=
    readList_map readText_str a.tags
  have hparameters : readList Parameter.check (.arr (a.parameters.map Parameter.toJson)) =
      .valid a.parameters := readList_map Parameter.check_toJson a.parameters
  have hrequest : readOptional (readDictionary readAny)
      ((a.requestSchema.map Json.obj).getD .null) = .valid a.requestSchema := by
    cases a.requestSchema with
    | none => rfl
    | some schema => 
      show some <$> readDictionary readAny (.obj schema) = _
      rw [readDictionary_obj, Checked.map_valid]
  have hstatus : readDictionary readText (.obj (a.statusCodes.map fun c => (c.1, .str c.2))) =
      .valid a.statusCodes := readDictionary_map readText_str a.statusCodes
  simp [Analysis.check, Analysis.toJson, requiredField, field, fieldNamed, fieldUnder,
    Entries.get?_cons, htags, hparameters, hrequest, hstatus, readDictionary_obj,
    Examples.check_toJson]

end RouteDoc
