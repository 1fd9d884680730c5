import Mathlib.Data.List.Perm.Subperm
import RouteDoc.Proofs.Entries
import RouteDoc.Proofs.Json.Compact
import RouteDoc.Proofs.Text.Order

/-!
# Values up to the order of fields

* `alike`: two values are the same up to the order of the fields of their objects;
* `namesOnce`: no object gives a name twice;
* `namesOnce_of_readList`: nor does any object that is read;
* `canonical_eq_iff`: values have one canonical text exactly if they are alike.
-/

namespace RouteDoc.Json

mutual

/-- Whether two values are the same up to the order of fields. Integers, numbers with
a point or exponent and truth values are distinct; numbers with a point or exponent are
compared by their shortest decimals. -/
def alike : Json → Json → Bool
  | .null, .null => true
  | .bool a, .bool b => a == b
  | .int m, .int n => m == n
  | .float x, .float y => writeFloat x == writeFloat y
  | .str s, .str t => s == t
  | .arr xs, .arr ys => alikeItems xs ys
  | .obj xs, .obj ys => xs.length == ys.length && alikeFields xs ys
  | _, _ => false

/-- Whether two lists hold alike values. -/
def alikeItems : List Json → List Json → Bool
  | [], [] => true
  | x :: xs, y :: ys => alike x y && alikeItems xs ys
  | _, _ => false

/-- Whether each of some fields stands among others with an alike value. -/
def alikeFields : List (String × Json) → Fields → Bool
  | [], _ => true
  | (name, x) :: xs, ys => (ys.get? name).any (fun y => alike x y) && alikeFields xs ys

end

mutual

/-- Whether no object in a value gives a name twice. -/
def namesOnce : Json → Bool
  | .arr xs => namesOnceItems xs
  | .obj fields => decide (fields.map (·.1)).Nodup && namesOnceFields fields
  | _ => true

/-- Whether no object in a list gives a name twice. -/
def namesOnceItems : List Json → Bool
  | [] => true
  | x :: xs => namesOnce x && namesOnceItems xs

/-- Whether no object in some fields gives a name twice. -/
def namesOnceFields : List (String × Json) → Bool
  | [] => true
  | (_, x) :: fields => namesOnce x && namesOnceFields fields

end

theorem namesOnceItems_iff {xs : List Json} :
    namesOnceItems xs = true ↔ ∀ x ∈ xs, x.namesOnce = true := by
  induction xs with
  | nil => simp [namesOnceItems]
  | cons x xs ih => rw [namesOnceItems, Bool.and_eq_true, ih, List.forall_mem_cons]

theorem namesOnceFields_iff {fields : List (String × Json)} :
    namesOnceFields fields = true ↔ ∀ e ∈ fields, e.2.namesOnce = true := by
  induction fields with
  | nil => simp [namesOnceFields]
  | cons e fields ih => rw [namesOnceFields, Bool.and_eq_true, ih, List.forall_mem_cons]

theorem namesOnce_obj {fields : Fields} :
    (obj fields).namesOnce = true ↔
      (fields.map (·.1)).Nodup ∧ ∀ e ∈ fields, e.2.namesOnce = true := by
  rw [namesOnce, Bool.and_eq_true, decide_eq_true_eq, namesOnceFields_iff]

/-- Names may repeat in the text of an object, but not in what is read from it. -/
theorem namesOnce_ofFields {fields : List (String × Json)}
    (h : ∀ e ∈ fields, e.2.namesOnce = true) : (ofFields fields).namesOnce = true :=
  namesOnce_obj.mpr ⟨Entries.nodup_keys_ofList fields,
    fun e he => h e (Entries.mem_of_mem_ofList he)⟩

theorem IsAtom.namesOnce {v : Json} {t : List Char} (h : IsAtom v t) : v.namesOnce = true := by
  have hscalar := h.isScalar
  cases v with
  | arr _ | obj _ => cases hscalar
  | _ => rfl

/-- A value that is read from a text gives each name of an object once. -/
theorem namesOnce_of_readList {text : List Char} {v : Json} (h : readList text = .ok v) :
    v.namesOnce = true := by
  obtain ⟨_, _, _, -, -, -, hwritten⟩ := exists_written h
  exact hwritten.all IsAtom.namesOnce (fun _ => rfl) namesOnceItems_iff.mpr namesOnce_ofFields

theorem alikeFields_iff {xs ys : Fields} :
    alikeFields xs ys = true ↔ ∀ e ∈ xs, ∃ y, ys.get? e.1 = some y ∧ alike e.2 y = true := by
  induction xs with
  | nil => simp [alikeFields]
  | cons e xs ih =>
    rw [alikeFields, Bool.and_eq_true, ih, List.forall_mem_cons, Option.any_eq_true]

theorem kind_eq_of_alike {v w : Json} (h : alike v w = true) : v.kind = w.kind := by
  cases v <;> cases w <;> first | rfl | cases h

/-! ## Sorted values -/

theorem sortedAll_eq (xs : List Json) : sortedAll xs = xs.map sorted := by
  induction xs with
  | nil => rfl
  | cons x xs ih => rw [sortedAll, ih, List.map_cons]

theorem sortedFields_eq (fields : List (String × Json)) :
    sortedFields fields = fields.map fun e => (e.1, sorted e.2) := by
  induction fields with
  | nil => rfl
  | cons e fields ih => rw [sortedFields, ih, List.map_cons]

theorem kind_sorted (v : Json) : v.sorted.kind = v.kind := by cases v <;> rfl

theorem toList_canonical (v : Json) : (canonical v).toList = text v.sorted := rfl

/-- A field with the canonical text of its value. -/
def canonicalField (field : String × Json) : String × List Char := (field.1, text field.2.sorted)

theorem text_sorted_arr_inj {xs ys : List Json} :
    text (sorted (.arr xs)) = text (sorted (.arr ys)) ↔
      xs.map (fun x => text x.sorted) = ys.map fun y => text y.sorted := by
  rw [sorted, sorted, text_arr_inj, sortedAll_eq, sortedAll_eq, List.map_map, List.map_map]
  rfl

/-- Objects that give each name once have one canonical text if each has the fields of
the other, up to the canonical texts of the values. -/
theorem text_sorted_obj_inj {xs ys : Fields} (hxs : (xs.map (·.1)).Nodup) :
    text (sorted (.obj xs)) = text (sorted (.obj ys)) ↔
      (xs.map canonicalField).Perm (ys.map canonicalField) := by
  have hmap : ∀ fields : Fields,
      ((sortedFields fields).mergeSort fun a b => a.1 ≤ b.1).map (fun e => (e.1, text e.2)) =
        (fields.map canonicalField).mergeSort fun a b => a.1 ≤ b.1 := fun fields => by
    have hsorted : ∀ es : Fields,
        (es.mergeSort fun a b => a.1 ≤ b.1).map (fun e => (e.1, text e.2)) =
          (es.map fun e => (e.1, text e.2)).mergeSort fun a b => a.1 ≤ b.1 := fun es =>
      List.map_mergeSort fun _ _ _ _ => rfl
    rw [hsorted, sortedFields_eq, List.map_map]
    rfl
  have hnames : ((xs.map canonicalField).map (·.1)).Nodup := by
    rw [List.map_map]
    exact hxs
  rw [sorted, sorted, text_obj_inj, hmap, hmap]
  exact mergeSort_text_inj hnames

/-- The fields of an object with a name each are those of another if there are as many
and each of them stands there. -/
theorem perm_canonicalField_iff {xs ys : Fields} (hxs : (xs.map (·.1)).Nodup)
    (hys : (ys.map (·.1)).Nodup) :
    (xs.map canonicalField).Perm (ys.map canonicalField) ↔ xs.length = ys.length ∧
      ∀ e ∈ xs, ∃ y, ys.get? e.1 = some y ∧ text e.2.sorted = text y.sorted := by
  have hmem : ∀ e : String × Json, canonicalField e ∈ ys.map canonicalField ↔
      ∃ y, ys.get? e.1 = some y ∧ text e.2.sorted = text y.sorted := by
    intro e
    rw [List.mem_map]
    constructor
    · rintro ⟨⟨name, y⟩, hy, he⟩
      obtain ⟨rfl, ht⟩ := Prod.mk.inj he
      exact ⟨y, (Entries.mem_iff_get? hys).mp hy, ht.symm⟩
    · rintro ⟨y, hy, ht⟩
      exact ⟨(e.1, y), (Entries.mem_iff_get? hys).mpr hy, Prod.ext rfl ht.symm⟩
  constructor
  · intro h
    refine ⟨by simpa using h.length_eq, fun e he => (hmem e).mp ?_⟩
    exact h.mem_iff.mp (List.mem_map_of_mem he)
  · rintro ⟨hlength, hfields⟩
    have hnodup : (xs.map canonicalField).Nodup := by
      refine List.Nodup.of_map (·.1) ?_
      rw [List.map_map]
      exact hxs
    refine (List.subperm_of_subset hnodup fun p hp => ?_).perm_of_length_le ?_
    · obtain ⟨e, he, rfl⟩ := List.mem_map.mp hp
      exact (hmem e).mpr (hfields e he)
    · rw [List.length_map, List.length_map, hlength]

theorem map_eq_map_iff_alikeItems {xs ys : List Json}
    (hxs : ∀ x ∈ xs, ∀ y ∈ ys, text x.sorted = text y.sorted ↔ alike x y = true) :
    xs.map (fun x => text x.sorted) = ys.map (fun y => text y.sorted) ↔
      alikeItems xs ys = true := by
  induction xs generalizing ys with
  | nil => cases ys <;> simp [alikeItems]
  | cons x xs ih =>
    cases ys with
    | nil => simp [alikeItems]
    | cons y ys =>
      rw [List.map_cons, List.map_cons, List.cons.injEq, alikeItems, Bool.and_eq_true,
        hxs x List.mem_cons_self y List.mem_cons_self,
        ih fun x hx y hy => hxs x (List.mem_cons_of_mem _ hx) y (List.mem_cons_of_mem _ hy)]

/-- Where objects give each name once, two values have one canonical text exactly if
they are the same up to the order of fields. -/
theorem text_sorted_eq_iff {v w : Json} (hv : v.namesOnce = true) (hw : w.namesOnce = true) :
    text v.sorted = text w.sorted ↔ alike v w = true := by
  induction v using induction_on generalizing w with
  | step v ih =>
    by_cases hkind : v.kind = w.kind
    · cases v with
      | null =>
        cases w with
        | null => exact iff_of_true rfl rfl
        | _ => cases hkind
      | bool a =>
        cases w with
        | bool b => cases a <;> cases b <;> decide
        | _ => cases hkind
      | int m =>
        cases w with
        | int n =>
          rw [alike, beq_iff_eq]
          exact ⟨fun h => Text.toString_int_inj (String.toList_inj.mp h), fun h => h ▸ rfl⟩
        | _ => cases hkind
      | float x =>
        cases w with
        | float y =>
          rw [alike, beq_iff_eq]
          exact String.toList_inj
        | _ => cases hkind
      | str s =>
        cases w with
        | str t =>
          rw [alike, beq_iff_eq]
          exact ⟨fun h => stringText_append_inj (congrArg (· ++ []) h), fun h => h ▸ rfl⟩
        | _ => cases hkind
      | arr xs =>
        cases w with
        | arr ys =>
          rw [text_sorted_arr_inj, alike]
          exact map_eq_map_iff_alikeItems fun x hx y hy =>
            ih x hx (namesOnceItems_iff.mp hv x hx) (namesOnceItems_iff.mp hw y hy)
        | _ => cases hkind
      | obj xs =>
        cases w with
        | obj ys =>
          obtain ⟨hxs, hxs'⟩ := namesOnce_obj.mp hv
          obtain ⟨hys, hys'⟩ := namesOnce_obj.mp hw
          rw [text_sorted_obj_inj hxs, perm_canonicalField_iff hxs hys, alike, Bool.and_eq_true,
            beq_iff_eq, alikeFields_iff]
          refine and_congr_right fun _ => forall₂_congr fun e he => exists_congr fun y =>
            and_congr_right fun hy => ?_
          exact ih e.2 (List.mem_map_of_mem he) (hxs' e he)
            (hys' _ ((Entries.mem_iff_get? hys).mpr hy))
        | _ => cases hkind
    · refine iff_of_false (fun h => hkind ?_) fun h => hkind (kind_eq_of_alike h)
      rw [← kind_sorted, kind_eq_of_text_eq h, kind_sorted]

/-- Where objects give each name once, two values have one canonical text exactly if
they are the same up to the order of fields. -/
theorem canonical_eq_iff {v w : Json} (hv : v.namesOnce = true) (hw : w.namesOnce = true) :
    canonical v = canonical w ↔ alike v w = true := by
  rw [← String.toList_inj, toList_canonical, toList_canonical, text_sorted_eq_iff hv hw]

/-- The order of fields makes no difference, the kind of a value does. -/
example :
    alike (.obj [("a", .int 1), ("b", .null)]) (.obj [("b", .null), ("a", .int 1)]) = true ∧
      alike (.obj [("a", .int 1)]) (.obj [("a", .bool true)]) = false := by decide

end RouteDoc.Json
