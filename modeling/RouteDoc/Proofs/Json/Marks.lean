import Mathlib.Algebra.Ring.Nat
import RouteDoc.Proofs.Entries
import RouteDoc.Proofs.Json.Compact

/-!
# Marks

Brackets and colons are the characters that a printer of markup may take away. A text
that writes a value has at least as many of them as the value, each as it is or as an
escape.

* `markCount`, `marks`: how many marks a text or a value has;
* `Tallies`: how many marks a text stands for, its escapes read;
* `Written.standsFor`: a text that writes a value stands for all of its marks.
-/

namespace RouteDoc.Json

/-! ## Counting -/

/-- Brackets and the colon. -/
def isMark (c : Char) : Bool := c == '[' || c == ']' || c == ':'

/-- How many marks a text has. -/
def markCount (cs : List Char) : Nat := cs.countP isMark

theorem markCount_cons (c : Char) (cs : List Char) :
    markCount (c :: cs) = markCount cs + markCount [c] := by
  rw [markCount, List.countP_cons, markCount, markCount, List.countP_singleton]

@[simp] theorem markCount_append (cs ds : List Char) :
    markCount (cs ++ ds) = markCount cs + markCount ds := List.countP_append

theorem markCount_eq_zero {cs : List Char} : markCount cs = 0 ↔ ∀ c ∈ cs, isMark c = false := by
  simp [markCount, List.countP_eq_zero]

theorem markCount_singleton_of_not {c : Char} (h : isMark c = false) : markCount [c] = 0 :=
  markCount_eq_zero.mpr fun _ hd => List.mem_singleton.mp hd ▸ h

theorem markCount_cons_of_not {c : Char} (h : isMark c = false) (cs : List Char) :
    markCount (c :: cs) = markCount cs := by
  rw [markCount_cons, markCount_singleton_of_not h, Nat.add_zero]

/-- A character with a property that the marks lack is none of them. -/
theorem isMark_eq_false_of {P : Char → Prop} {c : Char} (h : P c) (hopen : ¬ P '[')
    (hclose : ¬ P ']') (hcolon : ¬ P ':') : isMark c = false := by
  refine Bool.eq_false_iff.mpr fun hmark => ?_
  simp only [isMark, Bool.or_eq_true, beq_iff_eq] at hmark
  rcases hmark with (rfl | rfl) | rfl
  · exact hopen h
  · exact hclose h
  · exact hcolon h

/-- Marks are neither control characters nor outside ASCII. -/
theorem isMark_eq_false {c : Char} (h : c.toNat < 0x20 ∨ 0x7F ≤ c.toNat) : isMark c = false :=
  isMark_eq_false_of (P := fun c => c.toNat < 0x20 ∨ 0x7F ≤ c.toNat) h (by decide) (by decide)
    (by decide)

theorem isMark_ofNat {n : Nat} (h : n < 0x20 ∨ 0x7F ≤ n) : isMark (Char.ofNat n) = false := by
  rcases Text.toNat_ofNat_or n with hn | hn
  · exact isMark_eq_false (hn.symm ▸ h)
  · rw [hn]
    rfl

theorem isMark_of_isPlain {c : Char} (h : isPlain c = true) : isMark c = false :=
  isMark_eq_false_of (P := fun c => isPlain c = true) h (by decide) (by decide) (by decide)

/-! ## The marks of a value -/

/-- How many marks a value has: those of its text on one line. -/
def marks (v : Json) : Nat := markCount (text v)

/-- How many marks a field has. -/
def fieldMarks (f : String × Json) : Nat := markCount f.1.toList + 1 + marks f.2

/-- An escape is written without marks, and only for characters that are none. -/
theorem markCount_writeChar (c : Char) : markCount (writeChar true c) = markCount [c] := by
  have hunit : ∀ n, markCount (unitEscape n) = 0 := fun n => by
    have hdigit : ∀ k < 16, isMark (hexDigit k) = false := by decide
    refine markCount_eq_zero.mpr fun d hd => ?_
    simp only [unitEscape, List.mem_cons, List.not_mem_nil, or_false] at hd
    rcases hd with rfl | rfl | rfl | rfl | rfl | rfl
    · rfl
    · rfl
    all_goals exact hdigit _ (Nat.mod_lt _ (by decide))
  unfold writeChar
  split
  any_goals rfl
  dsimp only
  split
  · rename_i hunits
    simp only [Bool.true_and, Bool.or_eq_true, Bool.and_eq_true, decide_eq_true_eq] at hunits
    rw [hunit, markCount_singleton_of_not (isMark_eq_false (by omega))]
  · split
    · rename_i hpair
      simp only [Bool.true_and, decide_eq_true_eq] at hpair
      rw [markCount_append, hunit, hunit, markCount_singleton_of_not (isMark_eq_false (by omega))]
    · rfl

theorem markCount_stringText (s : String) : markCount (stringText s) = markCount s.toList := by
  have hbody : markCount (s.toList.flatMap (writeChar true)) = markCount s.toList := by
    induction s.toList with
    | nil => rfl
    | cons c cs ih =>
      rw [List.flatMap_cons, markCount_append, markCount_writeChar, ih, markCount_cons c cs,
        Nat.add_comm]
  rw [stringText_eq, markCount_cons_of_not rfl, markCount_append, hbody]
  rfl

theorem markCount_fieldText (f : String × Json) : markCount (fieldText f) = fieldMarks f := by
  rw [fieldText, markCount_append, markCount_stringText, markCount_cons]
  exact (Nat.add_left_comm _ _ _).trans (Nat.add_comm _ _)

theorem markCount_intercalate (ts : List (List Char)) :
    markCount ([','].intercalate ts) = (ts.map markCount).sum := by
  have hcommas : ∀ ts : List (List Char),
      markCount (ts.flatMap (',' :: ·)) = (ts.map markCount).sum := fun ts => by
    induction ts with
    | nil => rfl
    | cons t ts ih =>
      rw [List.flatMap_cons, markCount_append, ih, markCount_cons_of_not rfl, List.map_cons,
        List.sum_cons]
  cases ts with
  | nil => rfl
  | cons t ts => rw [intercalate_comma, markCount_append, hcommas, List.map_cons, List.sum_cons]

theorem marks_str (s : String) : marks (.str s) = markCount s.toList := markCount_stringText s

theorem marks_arr (xs : List Json) : marks (.arr xs) = (xs.map marks).sum + 2 := by
  rw [marks, text_arr, markCount_cons, markCount_append, markCount_intercalate, List.map_map]
  rfl

theorem marks_obj (fields : List (String × Json)) :
    marks (.obj fields) = (fields.map fieldMarks).sum := by
  have hfields : markCount ∘ fieldText = fieldMarks := by
    funext f
    rw [Function.comp_apply, markCount_fieldText]
  rw [marks, text_obj, markCount_cons_of_not rfl, markCount_append, markCount_intercalate,
    List.map_map, hfields]
  rfl

theorem IsAtom.opening {v : Json} {t : List Char} (h : IsAtom v t) : v.opening = none := by
  have hscalar := h.isScalar
  cases v with
  | str _ | arr _ | obj _ => cases hscalar
  | _ => rfl

/-- Numbers and words have no marks. -/
theorem marks_eq_zero {v : Json} (h : v.opening = none) : marks v = 0 :=
  markCount_eq_zero.mpr fun _ hc => isMark_of_isPlain (isPlain_of_mem_text h hc)

theorem sum_fieldMarks_put (fields : Fields) (name : String) (v : Json) :
    ((fields.put name v).map fieldMarks).sum ≤
      (fields.map fieldMarks).sum + fieldMarks (name, v) := by
  induction fields with
  | nil => simp [Entries.put]
  | cons f fields ih =>
    obtain ⟨name', v'⟩ := f
    rw [Entries.put]
    split
    · rename_i hname
      rw [List.map_cons, List.sum_cons, List.map_cons, List.sum_cons, beq_iff_eq.mp hname]
      omega
    · rw [List.map_cons, List.sum_cons, List.map_cons, List.sum_cons]
      omega

/-- A field whose name comes again is lost, and its marks with it. -/
theorem marks_ofFields_le (fields : List (String × Json)) :
    marks (ofFields fields) ≤ (fields.map fieldMarks).sum := by
  have hfold : ∀ acc : Fields,
      ((fields.foldl (fun acc e => acc.put e.1 e.2) acc).map fieldMarks).sum ≤
        (acc.map fieldMarks).sum + (fields.map fieldMarks).sum := by
    induction fields with
    | nil => exact fun acc => Nat.le_refl _
    | cons f fields ih =>
      intro acc
      have hput : _ ≤ _ + fieldMarks f := sum_fieldMarks_put acc f.1 f.2
      have hrest := ih (acc.put f.1 f.2)
      rw [List.foldl_cons, List.map_cons, List.sum_cons]
      omega
  rw [ofFields, marks_obj, Entries.ofList]
  exact (hfold []).trans (Nat.le_of_eq (Nat.zero_add _))

/-! ## The marks that a text stands for -/

/-- A text stands for so many marks if its escapes are read: of one letter for none, of
a code point for the character that it names. -/
inductive Tallies : List Char → Nat → Prop
  | nil : Tallies [] 0
  | plain {c : Char} {cs : List Char} {n : Nat} (hslash : c ≠ '\\') (h : Tallies cs n) :
      Tallies (c :: cs) (n + markCount [c])
  | escape {e : Char} {cs : List Char} {n : Nat} (he : (plainEscape e).isSome)
      (h : Tallies cs n) : Tallies ('\\' :: e :: cs) n
  | code {a b c d : Char} {cs : List Char} {k n : Nat} (hk : hexQuad [a, b, c, d] = some k)
      (h : Tallies cs n) :
      Tallies ('\\' :: 'u' :: a :: b :: c :: d :: cs) (n + markCount [Char.ofNat k])

theorem Tallies.append {cs ds : List Char} {n m : Nat} (h : Tallies cs n) (hd : Tallies ds m) :
    Tallies (cs ++ ds) (n + m) := by
  induction h with
  | nil => rwa [List.nil_append, Nat.zero_add]
  | plain hslash _ ih =>
    rw [Nat.add_right_comm]
    exact .plain hslash ih
  | escape he _ ih => exact .escape he ih
  | code hk _ ih =>
    rw [Nat.add_right_comm]
    exact .code hk ih

theorem isMark_of_plainEscape {e d : Char} (h : plainEscape e = some d) : isMark d = false := by
  unfold plainEscape at h
  split at h
  any_goals
    obtain rfl := Option.some.inj h
    rfl
  cases h

/-- An escape that stands for a mark has four digits. -/
theorem markCount_of_codePoint {a b c e d : Char} {more : List Char} {k n : Nat}
    (hk : hexQuad [a, b, c, e] = some k)
    (h : codePoint (a :: b :: c :: e :: more) = some (d, n)) :
    markCount [d] ≤ markCount [Char.ofNat k] := by
  have hquad : hexQuad (a :: b :: c :: e :: more) = some k := hk
  rw [codePoint_of_hexQuad hquad, Option.or_eq_some_iff] at h
  rcases h with hpair | ⟨-, hone⟩
  · split at hpair
    · obtain ⟨low, -, hsome⟩ := Option.bind_eq_some_iff.mp hpair
      unfold surrogatePair at hsome
      split at hsome
      · obtain ⟨rfl, -⟩ := Prod.mk.inj (Option.some.inj hsome)
        rw [markCount_singleton_of_not (isMark_ofNat (by omega))]
        exact Nat.zero_le _
      · cases hsome
    · cases hpair
  · obtain ⟨rfl, -⟩ := Prod.mk.inj (Option.some.inj hone)
    split
    · exact Nat.zero_le _
    · exact Nat.le_refl _

/-- A text stands for so many marks or more. -/
def StandsFor (t : List Char) (n : Nat) : Prop := ∃ q, Tallies t q ∧ n ≤ q

section StandsFor

variable {t u : List Char} {n m : Nat}

theorem StandsFor.append (ht : StandsFor t n) (hu : StandsFor u m) : StandsFor (t ++ u) (n + m) :=
  let ⟨_, hq, hle⟩ := ht
  let ⟨_, hq', hle'⟩ := hu
  ⟨_, hq.append hq', Nat.add_le_add hle hle'⟩

theorem StandsFor.cons (h : StandsFor t n) {c : Char} (hslash : c ≠ '\\') :
    StandsFor (c :: t) (n + markCount [c]) :=
  let ⟨_, hq, hle⟩ := h
  ⟨_, .plain hslash hq, Nat.add_le_add_right hle _⟩

theorem StandsFor.escape (h : StandsFor t n) {e : Char} (he : (plainEscape e).isSome) :
    StandsFor ('\\' :: e :: t) n :=
  let ⟨_, hq, hle⟩ := h
  ⟨_, .escape he hq, hle⟩

theorem StandsFor.code (h : StandsFor t n) {a b c d : Char} {k : Nat}
    (hk : hexQuad [a, b, c, d] = some k) :
    StandsFor ('\\' :: 'u' :: a :: b :: c :: d :: t) (n + markCount [Char.ofNat k]) :=
  let ⟨_, hq, hle⟩ := h
  ⟨_, .code hk hq, Nat.add_le_add_right hle _⟩

theorem StandsFor.mono (h : StandsFor t n) (hle : m ≤ n) : StandsFor t m :=
  let ⟨_, hq, hle'⟩ := h
  ⟨_, hq, hle.trans hle'⟩

/-- A text in quotation marks stands for its marks, and the rest for those of the rest. -/
theorem StandsFor.quoted (h : StandsFor u m) (ht : StandsFor t n) :
    StandsFor ('"' :: (t ++ '"' :: u)) (n + m) :=
  (ht.append (h.cons (by decide))).cons (by decide)

end StandsFor

/-- Without a backslash a text stands for the marks that it has. -/
theorem standsFor_self {cs : List Char} (h : '\\' ∉ cs) : StandsFor cs (markCount cs) := by
  induction cs with
  | nil => exact ⟨0, .nil, Nat.le_refl _⟩
  | cons c cs ih =>
    rw [List.mem_cons, not_or] at h
    rw [markCount_cons]
    exact (ih h.2).cons (Ne.symm h.1)

/-- The spelling of a text stands for its marks. -/
theorem Spells.standsFor {body s : List Char} (h : Spells body s) :
    StandsFor body (markCount s) := by
  induction h with
  | nil => exact ⟨0, .nil, Nat.le_refl _⟩
  | @plain c cs s _ hslash _ _ ih =>
    rw [markCount_cons]
    exact ih.cons hslash
  | @escape e d cs s he _ ih =>
    rw [markCount_cons_of_not (isMark_of_plainEscape he)]
    exact ih.escape (Option.isSome_of_eq_some he)
  | @code d digits cs s hd _ ih =>
    obtain ⟨a, b, c, e, more, hdigits, hquad, hlength⟩ := codePoint_cases hd
    obtain ⟨k, hk⟩ := Option.isSome_iff_exists.mp hquad
    have hmark : markCount (d :: s) ≤ markCount s + markCount [Char.ofNat k] := by
      rw [markCount_cons]
      exact Nat.add_le_add_left (markCount_of_codePoint hk (hdigits ▸ hd)) _
    rcases hlength with hlength | ⟨hlength, f, g, i, j, rest, rfl, hlow⟩
    · have hone : digits ++ cs = [a, b, c, e] ++ more := hdigits
      obtain ⟨rfl, rfl⟩ := List.append_inj hone hlength
      exact (ih.code hk).mono hmark
    · -- The second of two surrogates is read on its own.
      have htwo : digits ++ cs = [a, b, c, e, '\\', 'u', f, g, i, j] ++ rest := hdigits
      obtain ⟨rfl, rfl⟩ := List.append_inj htwo hlength
      obtain ⟨low, hlow⟩ := Option.isSome_iff_exists.mp hlow
      exact ((ih.code hlow).code hk).mono (hmark.trans (by omega))

theorem standsFor_blanks {b : List Char} (hb : Blanks b) : StandsFor b 0 :=
  (standsFor_self fun hmem => absurd (hb _ hmem) (by decide)).mono (Nat.zero_le _)

/-- Blanks and commas stand for no marks. -/
theorem StandsFor.blanks {t b : List Char} {n : Nat} (h : StandsFor t n) (hb : Blanks b) :
    StandsFor (b ++ t) n :=
  ((standsFor_blanks hb).append h).mono (Nat.le_of_eq (Nat.zero_add n).symm)

theorem StandsFor.comma {t b b' : List Char} {n : Nat} (h : StandsFor t n) (hb : Blanks b)
    (hb' : Blanks b') : StandsFor (b ++ ',' :: (b' ++ t)) n :=
  StandsFor.blanks ((h.blanks hb').cons (by decide)) hb

/-- How many marks a part of a text has, with the bracket that ends items. -/
def Part.marks : Part → Nat
  | .value v => v.marks
  | .field f => fieldMarks f
  | .items xs => (xs.map Json.marks).sum + 1
  | .fields fs => (fs.map fieldMarks).sum

/-- What is written stands for all marks of what it writes. -/
theorem Written.standsFor {P : List Char → Prop} {n : Nat} {p : Part} {t : List Char}
    (h : Written P n p t) : StandsFor t p.marks := by
  have hopen : markCount ['['] = 1 := rfl
  have hcolon : markCount [':'] = 1 := rfl
  have hitems : StandsFor [']'] 1 := standsFor_self (by decide)
  have hfields : StandsFor ['}'] 0 := standsFor_self (by decide)
  induction h with
  | atom h =>
    have hslash : '\\' ∉ _ := fun hmem => absurd (h.plain _ hmem) (by decide)
    refine (standsFor_self hslash).mono ?_
    rw [Part.marks, marks_eq_zero h.opening]
    exact Nat.zero_le _
  | text hs _ =>
    rw [Part.marks, marks_str, String.toList_ofList]
    exact StandsFor.quoted ⟨0, .nil, Nat.le_refl _⟩ hs.standsFor
  | emptyList hb =>
    rw [Part.marks, marks_arr]
    exact ((hitems.blanks hb).cons (by decide)).mono (by simp [hopen])
  | list hb _ ih =>
    rw [Part.marks, marks_arr]
    exact ((ih.blanks hb).cons (by decide)).mono (by simp [Part.marks, hopen])
  | emptyObject hb =>
    rw [Part.marks, marks_obj]
    exact (hfields.blanks hb).cons (by decide)
  | object hb _ ih =>
    exact ((ih.blanks hb).cons (by decide)).mono
      ((marks_ofFields_le _).trans (by simp [Part.marks]))
  | field hs _ hb hb' _ ih =>
    refine (StandsFor.quoted (((ih.blanks hb').cons (by decide)).blanks hb) hs.standsFor).mono ?_
    simp only [Part.marks, fieldMarks, String.toList_ofList]
    omega
  | lastItem _ hb ih => exact (ih.append (hitems.blanks hb)).mono (by simp [Part.marks])
  | commaItem _ hb hb' ih => exact (ih.append (hitems.comma hb hb')).mono (by simp [Part.marks])
  | moreItems _ hb hb' _ ih ihs =>
    exact (ih.append (ihs.comma hb hb')).mono (by simp [Part.marks, Nat.add_assoc])
  | lastField _ hb ih => exact (ih.append (hfields.blanks hb)).mono (by simp [Part.marks])
  | commaField _ hb hb' ih => exact (ih.append (hfields.comma hb hb')).mono (by simp [Part.marks])
  | moreFields _ hb hb' _ ih ihs =>
    exact (ih.append (ihs.comma hb hb')).mono (by simp [Part.marks])

end RouteDoc.Json
