import Mathlib.Data.List.Find
import Mathlib.Data.List.TakeWhile
import RouteDoc.Json.Reader
import RouteDoc.Proofs.Text.Stretch

/-!
# Numbers and words

Values that are neither strings nor between brackets consist of plain characters
and end before the first that is not plain.

* `numeralOf`, `readNumber_eq`: the parts of a number, from which it is read;
* `IsAtom`: a text is a number or word;
* `readAtom_append`, `exists_atom`: atoms are read up to their end.
-/

namespace RouteDoc.Json

open Text (Ends takeWhile_append_of_ends isPrefixOf_append_of_ends head?_append_of_ends)

/-- Whether a character may stand in a number or word. -/
def isPlain (c : Char) : Bool := c.isAlphanum || c == '+' || c == '-' || c == '.'

theorem isPlain_of_isDigit {c : Char} (h : c.isDigit = true) : isPlain c = true := by
  simp [isPlain, Char.isAlphanum, h]

/-! ## The parts of a number -/

/-- A number without its sign. -/
def unsigned (cs : List Char) : List Char := if cs.head? == some '-' then cs.drop 1 else cs

/-- The digits before the point. -/
def wholeOf (cs : List Char) : List Char :=
  match cs with
  | '0' :: _ => ['0']
  | _ => cs.takeWhile Char.isDigit

/-- The digits after the point. -/
def fractionOf (cs : List Char) : List Char :=
  match cs with
  | '.' :: more => more.takeWhile Char.isDigit
  | _ => []

/-- The exponent: the length of its sign, whether that is a minus, and the
digits. -/
def exponentOf (cs : List Char) : Nat × Bool × List Char :=
  match cs with
  | e :: more =>
    if e == 'e' || e == 'E' then
      match more with
      | '-' :: ds => (1, true, ds.takeWhile Char.isDigit)
      | '+' :: ds => (1, false, ds.takeWhile Char.isDigit)
      | ds => (0, false, ds.takeWhile Char.isDigit)
    else (0, false, [])
  | [] => (0, false, [])

/-- How many characters the digits of a fraction take with the point. -/
def fractionLength (cs : List Char) : Nat :=
  if (fractionOf cs).isEmpty then 0 else (fractionOf cs).length + 1

/-- How many characters the digits of an exponent take with letter and sign. -/
def exponentLength (cs : List Char) : Nat :=
  if (exponentOf cs).2.2.isEmpty then 0 else 1 + (exponentOf cs).1 + (exponentOf cs).2.2.length

/-- How many characters the sign takes. -/
def signLength (cs : List Char) : Nat := if cs.head? == some '-' then 1 else 0

/-- What follows the digits before the point. -/
def afterWhole (cs : List Char) : List Char := (unsigned cs).drop (wholeOf (unsigned cs)).length

/-- What follows the digits after the point. -/
def afterFraction (cs : List Char) : List Char :=
  (afterWhole cs).drop (fractionLength (afterWhole cs))

/-- How many characters a number takes. -/
def numberLength (cs : List Char) : Nat :=
  signLength cs + (wholeOf (unsigned cs)).length + fractionLength (afterWhole cs) +
    exponentLength (afterFraction cs)

/-- The value of a number with its digits before the point, those after it, and
its exponent; the number stood at `offset`. -/
def numberValue (offset : Nat) (negative : Bool) (whole fraction : List Char)
    (exponent : Nat × Bool × List Char) : Except ReadError Json :=
  if whole.isEmpty then .error (.at .value offset)
  else if fraction.isEmpty && exponent.2.2.isEmpty then
    if maxIntegerDigits < whole.length then .error (.tooManyDigits whole.length)
    else .ok (.int (if negative then -(digitsValue whole : Int) else digitsValue whole))
  else
    let e : Int := digitsValue exponent.2.2
    let e := (if exponent.2.1 then -e else e) - fraction.length
    .ok (.float (.ofDecimal negative (digitsValue (whole ++ fraction)) e))

/-- The value of the number at the start, which stood at `offset`. -/
def numberAt (offset : Nat) (cs : List Char) : Except ReadError Json :=
  numberValue offset (cs.head? == some '-') (wholeOf (unsigned cs)) (fractionOf (afterWhole cs))
    (exponentOf (afterFraction cs))

/-- Only an error tells where the number stood. -/
theorem numberAt_of_ok {offset : Nat} {cs : List Char} {v : Json} (h : numberAt offset cs = .ok v)
    (offset' : Nat) : numberAt offset' cs = .ok v := by
  unfold numberAt numberValue at h ⊢
  split at h
  · cases h
  · rename_i hwhole
    rw [if_neg hwhole]
    exact h

/-- A number is read from its parts. -/
theorem readNumber_eq (r : Rest) : readNumber r =
    (numberAt r.offset r.chars).map fun v => (v, r.drop (numberLength r.chars)) := by
  have hraw : readNumber r =
      let negative := r.chars.head? == some '-'
      let whole := wholeOf (unsigned r.chars)
      if whole.isEmpty then .error (.at .value r.offset)
      else
        let fraction := fractionOf (afterWhole r.chars)
        let afterFraction :=
          if fraction.isEmpty then afterWhole r.chars
          else (afterWhole r.chars).drop (fraction.length + 1)
        let exponent := exponentOf afterFraction
        let rest := r.drop (signLength r.chars + whole.length +
          fractionLength (afterWhole r.chars) + exponentLength afterFraction)
        if fraction.isEmpty && exponent.2.2.isEmpty then
          if maxIntegerDigits < whole.length then .error (.tooManyDigits whole.length)
          else .ok (.int (if negative then -(digitsValue whole : Int) else digitsValue whole), rest)
        else
          let e : Int := digitsValue exponent.2.2
          let e := (if exponent.2.1 then -e else e) - fraction.length
          .ok (.float (.ofDecimal negative (digitsValue (whole ++ fraction)) e), rest) := rfl
  have hafter : (if (fractionOf (afterWhole r.chars)).isEmpty then afterWhole r.chars
      else (afterWhole r.chars).drop ((fractionOf (afterWhole r.chars)).length + 1)) =
        afterFraction r.chars := by
    rw [afterFraction, fractionLength]
    split <;> rfl
  rw [hraw]
  dsimp only
  rw [hafter, numberAt, numberValue, numberLength]
  split
  · rfl
  · split
    · split <;> rfl
    · rfl

/-! ## Where a number ends -/

theorem wholeOf_eq (cs : List Char) :
    wholeOf cs = if cs.head? == some '0' then ['0'] else cs.takeWhile Char.isDigit := by
  unfold wholeOf
  split
  · rfl
  · rename_i hzero
    rw [if_neg]
    intro h
    obtain ⟨more, rfl⟩ := List.head?_eq_some_iff.mp (beq_iff_eq.mp h)
    exact hzero more rfl

theorem fractionOf_eq (cs : List Char) : fractionOf cs =
    if cs.head? == some '.' then (cs.drop 1).takeWhile Char.isDigit else [] := by
  unfold fractionOf
  split
  · rfl
  · rename_i hpoint
    rw [if_neg]
    intro h
    obtain ⟨more, rfl⟩ := List.head?_eq_some_iff.mp (beq_iff_eq.mp h)
    exact hpoint more rfl

theorem exponentOf_eq (cs : List Char) : exponentOf cs =
    if cs.head? == some 'e' || cs.head? == some 'E' then
      if (cs.drop 1).head? == some '-' then
        (1, true, ((cs.drop 1).drop 1).takeWhile Char.isDigit)
      else if (cs.drop 1).head? == some '+' then
        (1, false, ((cs.drop 1).drop 1).takeWhile Char.isDigit)
      else (0, false, (cs.drop 1).takeWhile Char.isDigit)
    else (0, false, []) := by
  cases cs with
  | nil => rfl
  | cons e more =>
    cases more with
    | nil => rfl
    | cons sign ds =>
      simp only [exponentOf, List.head?_cons, List.drop_succ_cons, List.drop_zero,
        Option.some_beq_some]
      split
      · split
        · rename_i heq
          obtain ⟨rfl, rfl⟩ := List.cons.inj heq
          rfl
        · rename_i heq
          obtain ⟨rfl, rfl⟩ := List.cons.inj heq
          rfl
        · rename_i hminus hplus
          rw [if_neg, if_neg]
          · exact fun h => hplus ds (by rw [beq_iff_eq.mp h])
          · exact fun h => hminus ds (by rw [beq_iff_eq.mp h])
      · rfl

section Ends

variable {rest : List Char}

theorem drop_one_append {c : Char} {cs : List Char} (h : (cs.head? == some c) = true)
    (rest : List Char) : (cs ++ rest).drop 1 = cs.drop 1 ++ rest := by
  obtain ⟨more, rfl⟩ := List.head?_eq_some_iff.mp (beq_iff_eq.mp h)
  rfl

theorem takeWhile_isDigit_append (h : Ends isPlain rest) (cs : List Char) :
    (cs ++ rest).takeWhile Char.isDigit = cs.takeWhile Char.isDigit :=
  takeWhile_append_of_ends (h.mono fun _ => isPlain_of_isDigit) cs

theorem unsigned_append (h : Ends isPlain rest) (cs : List Char) :
    unsigned (cs ++ rest) = unsigned cs ++ rest := by
  rw [unsigned, unsigned, head?_append_of_ends (by decide) h]
  split
  · rename_i hminus
    exact drop_one_append hminus rest
  · rfl

theorem wholeOf_append (h : Ends isPlain rest) (cs : List Char) :
    wholeOf (cs ++ rest) = wholeOf cs := by
  rw [wholeOf_eq, wholeOf_eq, head?_append_of_ends (by decide) h, takeWhile_isDigit_append h]

theorem fractionOf_append (h : Ends isPlain rest) (cs : List Char) :
    fractionOf (cs ++ rest) = fractionOf cs := by
  rw [fractionOf_eq, fractionOf_eq, head?_append_of_ends (by decide) h]
  split
  · rename_i hpoint
    rw [drop_one_append hpoint, takeWhile_isDigit_append h]
  · rfl

theorem exponentOf_append (h : Ends isPlain rest) (cs : List Char) :
    exponentOf (cs ++ rest) = exponentOf cs := by
  rw [exponentOf_eq, exponentOf_eq, head?_append_of_ends (by decide) h,
    head?_append_of_ends (by decide) h]
  split
  · rename_i hletter
    have hone : (cs ++ rest).drop 1 = cs.drop 1 ++ rest := by
      rcases (Bool.or_eq_true _ _).mp hletter with he | he
      · exact drop_one_append he rest
      · exact drop_one_append he rest
    rw [hone, head?_append_of_ends (by decide) h,
      head?_append_of_ends (by decide) h, takeWhile_isDigit_append h]
    split
    · rename_i hsign
      rw [drop_one_append hsign, takeWhile_isDigit_append h]
    · split
      · rename_i hsign
        rw [drop_one_append hsign, takeWhile_isDigit_append h]
      · rfl
  · rfl

end Ends

/-- So many plain characters are next. -/
def Spans (n : Nat) (cs : List Char) : Prop := n ≤ cs.length ∧ ∀ c ∈ cs.take n, isPlain c = true

theorem spans_zero (cs : List Char) : Spans 0 cs := ⟨Nat.zero_le _, by simp⟩

theorem Spans.add {n m : Nat} {cs : List Char} (hn : Spans n cs) (hm : Spans m (cs.drop n)) :
    Spans (n + m) cs := by
  refine ⟨?_, fun c hc => ?_⟩
  · have hle := hm.1
    have hle' := hn.1
    rw [List.length_drop] at hle
    omega
  · rw [List.take_add, List.mem_append] at hc
    exact hc.elim (hn.2 c) (hm.2 c)

theorem spans_one {c : Char} (hc : isPlain c = true) {cs : List Char}
    (h : (cs.head? == some c) = true) : Spans 1 cs := by
  obtain ⟨more, rfl⟩ := List.head?_eq_some_iff.mp (beq_iff_eq.mp h)
  refine ⟨Nat.le_add_left 1 _, fun d hd => ?_⟩
  obtain rfl : d = c := by simpa using hd
  exact hc

theorem spans_digits (cs : List Char) : Spans (cs.takeWhile Char.isDigit).length cs := by
  have hfront := List.takeWhile_prefix Char.isDigit (l := cs)
  refine ⟨hfront.length_le, fun c hc => ?_⟩
  rw [← List.prefix_iff_eq_take.mp hfront] at hc
  exact isPlain_of_isDigit (List.mem_takeWhile_imp hc)

theorem spans_whole (cs : List Char) : Spans (wholeOf cs).length cs := by
  rw [wholeOf_eq]
  split
  · rename_i hzero
    exact spans_one (by decide) hzero
  · exact spans_digits cs

theorem spans_unless {n : Nat} {cs : List Char} (h : Spans n cs) (none : Bool) :
    Spans (if none then 0 else n) cs := by
  cases none with
  | true => exact spans_zero cs
  | false => exact h

theorem spans_fraction (cs : List Char) : Spans (fractionLength cs) cs := by
  rw [fractionLength, fractionOf_eq]
  split
  · rename_i hpoint
    refine spans_unless ?_ _
    rw [Nat.add_comm]
    exact (spans_one (by decide) hpoint).add (spans_digits _)
  · exact spans_zero cs

theorem spans_exponent (cs : List Char) : Spans (exponentLength cs) cs := by
  rw [exponentLength, exponentOf_eq]
  split
  · rename_i hletter
    have hone : Spans 1 cs := by
      rcases (Bool.or_eq_true _ _).mp hletter with he | he
      · exact spans_one (by decide) he
      · exact spans_one (by decide) he
    refine spans_unless ?_ _
    split
    · rename_i hsign
      rw [Nat.add_assoc]
      exact hone.add ((spans_one (by decide) hsign).add (spans_digits _))
    · split
      · rename_i hsign
        rw [Nat.add_assoc]
        exact hone.add ((spans_one (by decide) hsign).add (spans_digits _))
      · exact hone.add (spans_digits _)
  · exact spans_zero cs

theorem spans_sign (cs : List Char) : Spans (signLength cs) cs := by
  rw [signLength]
  split
  · rename_i hminus
    exact spans_one (by decide) hminus
  · exact spans_zero cs

theorem unsigned_eq_drop (cs : List Char) : unsigned cs = cs.drop (signLength cs) := by
  rw [unsigned, signLength]
  split <;> rfl

/-- A number consists of plain characters. -/
theorem spans_number (cs : List Char) : Spans (numberLength cs) cs := by
  have hunsigned := unsigned_eq_drop cs
  have hwhole : Spans (signLength cs + (wholeOf (unsigned cs)).length) cs :=
    (spans_sign cs).add (hunsigned ▸ spans_whole (unsigned cs))
  have hafter : afterWhole cs = cs.drop (signLength cs + (wholeOf (unsigned cs)).length) := by
    rw [afterWhole, ← List.drop_drop, ← hunsigned]
  have hfraction : Spans (signLength cs + (wholeOf (unsigned cs)).length +
      fractionLength (afterWhole cs)) cs := by
    refine hwhole.add ?_
    rw [← hafter]
    exact spans_fraction _
  refine hfraction.add ?_
  rw [← List.drop_drop, ← hafter]
  exact spans_exponent _

/-- A number is the same whatever follows it. -/
theorem number_append {rest : List Char} (h : Ends isPlain rest) (offset : Nat) (cs : List Char) :
    numberAt offset (cs ++ rest) = numberAt offset cs ∧
      numberLength (cs ++ rest) = numberLength cs := by
  have hsigned := unsigned_append h cs
  have hwhole : afterWhole (cs ++ rest) = afterWhole cs ++ rest := by
    rw [afterWhole, hsigned, wholeOf_append h, List.drop_append_of_le_length (spans_whole _).1,
      afterWhole]
  have hlength : fractionLength (afterWhole cs ++ rest) = fractionLength (afterWhole cs) := by
    rw [fractionLength, fractionOf_append h, fractionLength]
  have hfraction : afterFraction (cs ++ rest) = afterFraction cs ++ rest := by
    rw [afterFraction, hwhole, hlength, List.drop_append_of_le_length (spans_fraction _).1,
      afterFraction]
  constructor
  · rw [numberAt, hsigned, hwhole, hfraction, wholeOf_append h, fractionOf_append h,
      exponentOf_append h, head?_append_of_ends (by decide) h, numberAt]
  · rw [numberLength, hsigned, hwhole, hfraction, hlength, wholeOf_append h, exponentLength,
      exponentOf_append h, signLength, head?_append_of_ends (by decide) h]
    rfl

/-! ## Atoms -/

/-- The word at the start, if there is one. -/
def wordAt (cs : List Char) : Option (String × Json) :=
  literals.find? fun l => l.1.toList.isPrefixOf cs

/-- The value of the number or word at the start, and how many characters it
takes; it stood at `offset`. -/
def atomAt (offset : Nat) (cs : List Char) : Except ReadError (Json × Nat) :=
  match wordAt cs with
  | some (w, v) => .ok (v, w.length)
  | none => (numberAt offset cs).map fun v => (v, numberLength cs)

theorem readValue_atom {c : Char} (hc : c ∉ ['"', '\x7b', '[']) (depth : Nat) (cs : List Char)
    (offset : Nat) : readValue (depth + 1) ⟨c :: cs, offset⟩ =
      (atomAt offset (c :: cs)).map fun x => (x.1, (Rest.mk (c :: cs) offset).drop x.2) := by
  have hvalue : readValue (depth + 1) ⟨c :: cs, offset⟩ =
      match wordAt (c :: cs) with
      | some (w, v) => .ok (v, (Rest.mk (c :: cs) offset).drop w.length)
      | none => readNumber ⟨c :: cs, offset⟩ := by
    rw [readValue]
    dsimp only
    split
    case h_5 => rfl
    all_goals simp_all
  rw [hvalue, atomAt]
  cases wordAt (c :: cs) with
  | some l => rfl
  | none =>
    dsimp only
    rw [readNumber_eq]
    cases numberAt offset (c :: cs) <;> rfl

theorem isPlain_of_mem_literals {l : String × Json} (hl : l ∈ literals) :
    ∀ c ∈ l.1.toList, isPlain c = true := by
  have hall : (literals.map (·.1)).all (fun w => w.toList.all isPlain) = true := by decide
  exact List.all_eq_true.mp (List.all_eq_true.mp hall l.1 (List.mem_map_of_mem hl))

theorem wordAt_append {rest : List Char} (h : Ends isPlain rest) (cs : List Char) :
    wordAt (cs ++ rest) = wordAt cs := by
  rw [wordAt, wordAt]
  refine List.find?_congr fun l hl => ?_
  exact isPrefixOf_append_of_ends (isPlain_of_mem_literals hl) h cs

theorem atomAt_append {rest : List Char} (h : Ends isPlain rest) (offset : Nat) (cs : List Char) :
    atomAt offset (cs ++ rest) = atomAt offset cs := by
  rw [atomAt, atomAt, wordAt_append h, (number_append h offset cs).1, (number_append h offset cs).2]

theorem atomAt_of_ok {offset : Nat} {cs : List Char} {x : Json × Nat}
    (h : atomAt offset cs = .ok x) (offset' : Nat) : atomAt offset' cs = .ok x := by
  unfold atomAt at h ⊢
  split
  · rename_i w v hword
    rw [hword] at h
    exact h
  · rename_i hword
    rw [hword] at h
    cases hnumber : numberAt offset cs with
    | error e =>
      rw [hnumber] at h
      cases h
    | ok v =>
      rw [numberAt_of_ok hnumber]
      rw [hnumber] at h
      exact h

/-- An atom takes some plain characters. -/
theorem spans_atom {offset n : Nat} {cs : List Char} {v : Json}
    (h : atomAt offset cs = .ok (v, n)) : 0 < n ∧ Spans n cs := by
  unfold atomAt at h
  split at h
  · rename_i w _ hword
    obtain ⟨-, rfl⟩ := Prod.mk.inj (Except.ok.inj h)
    have hmem := List.mem_of_find?_eq_some hword
    have hword := List.find?_some hword
    have hfront : w.toList <+: cs := List.isPrefixOf_iff_prefix.mp hword
    have hlength : w.length = w.toList.length := String.length_toList.symm
    refine ⟨?_, hlength ▸ hfront.length_le, fun c hc => ?_⟩
    · have hpos : ∀ w ∈ literals.map (·.1), 0 < w.length := by
        simp only [literals, List.map_cons, List.map_nil]
        decide
      exact hpos w (List.mem_map_of_mem (f := (·.1)) hmem)
    · rw [hlength, ← List.prefix_iff_eq_take.mp hfront] at hc
      exact isPlain_of_mem_literals hmem c hc
  · cases hnumber : numberAt offset cs with
    | error e =>
      rw [hnumber] at h
      cases h
    | ok v =>
      rw [hnumber] at h
      obtain ⟨-, rfl⟩ := Prod.mk.inj (Except.ok.inj h)
      refine ⟨?_, spans_number cs⟩
      unfold numberAt numberValue at hnumber
      split at hnumber
      · cases hnumber
      · rename_i hwhole
        have hpos := List.length_pos_iff.mpr fun he => hwhole (List.isEmpty_iff.mpr he)
        rw [numberLength]
        omega

/-- A text is a number or word. -/
structure IsAtom (v : Json) (t : List Char) : Prop where
  ne_nil : t ≠ []
  plain : ∀ c ∈ t, isPlain c = true
  value : ∀ offset, atomAt offset t = .ok (v, t.length)

/-- Whether a value is a number or word. -/
def isScalar : Json → Bool
  | .null | .bool _ | .int _ | .float _ => true
  | _ => false

theorem IsAtom.isScalar {v : Json} {t : List Char} (h : IsAtom v t) : v.isScalar = true := by
  have hliterals : literals.all (·.2.isScalar) = true := by rfl
  have hvalue := h.value 0
  unfold atomAt at hvalue
  split at hvalue
  · rename_i w v hword
    obtain ⟨rfl, -⟩ := Prod.mk.inj (Except.ok.inj hvalue)
    exact List.all_eq_true.mp hliterals _ (List.mem_of_find?_eq_some hword)
  · cases hnumber : numberAt 0 t with
    | error e =>
      rw [hnumber] at hvalue
      cases hvalue
    | ok v =>
      rw [hnumber] at hvalue
      obtain ⟨rfl, -⟩ := Prod.mk.inj (Except.ok.inj hvalue)
      unfold numberAt numberValue at hnumber
      split at hnumber
      · cases hnumber
      · split at hnumber
        · split at hnumber
          · cases hnumber
          · obtain rfl := Except.ok.inj hnumber
            rfl
        · obtain rfl := Except.ok.inj hnumber
          rfl

/-- No object is an atom. -/
theorem IsAtom.ne_obj {v : Json} {t : List Char} (h : IsAtom v t) (fields : List (String × Json)) :
    v ≠ .obj fields := by
  rintro rfl
  cases h.isScalar

theorem not_mem_of_isPlain {c : Char} (hc : isPlain c = true) : c ∉ ['"', '\x7b', '['] := by
  intro hmem
  have hnot : ∀ d ∈ ['"', '\x7b', '['], isPlain d = false := by
    simp only [List.forall_mem_cons, List.not_mem_nil, false_implies, implies_true, and_true]
    decide
  rw [hnot c hmem] at hc
  cases hc

/-- An atom is read up to its end. -/
theorem IsAtom.readValue {v : Json} {t rest : List Char} (h : IsAtom v t)
    (hrest : Ends isPlain rest) (depth offset : Nat) :
    readValue (depth + 1) ⟨t ++ rest, offset⟩ = .ok (v, ⟨rest, offset + t.length⟩) := by
  obtain ⟨c, cs, rfl⟩ := List.exists_cons_of_ne_nil h.ne_nil
  have hc := not_mem_of_isPlain (h.plain c List.mem_cons_self)
  rw [List.cons_append, readValue_atom hc, ← List.cons_append, atomAt_append hrest, h.value]
  simp only [Except.map, Rest.drop, List.drop_left]

/-- What is read where neither a string nor a bracket is next is an atom, if it
ends there. -/
theorem exists_atom {depth : Nat} {r r' : Rest} {v : Json}
    (h : Json.readValue (depth + 1) r = .ok (v, r'))
    (hr : ∀ c ∈ r.chars.head?, c ∉ ['"', '\x7b', '['])
    (hrest : Ends isPlain r'.chars) : ∃ t, r.chars = t ++ r'.chars ∧ IsAtom v t := by
  obtain ⟨chars, offset⟩ := r
  cases chars with
  | nil => cases h
  | cons c cs =>
    rw [readValue_atom (hr c rfl)] at h
    cases hatom : atomAt offset (c :: cs) with
    | error e =>
      rw [hatom] at h
      cases h
    | ok x =>
      rw [hatom] at h
      obtain ⟨rfl, rfl⟩ := Prod.mk.inj (Except.ok.inj h)
      obtain ⟨v, n⟩ := x
      obtain ⟨hpos, hle, hplain⟩ := spans_atom hatom
      have hlength : ((c :: cs).take n).length = n := List.length_take_of_le hle
      refine ⟨(c :: cs).take n, (List.take_append_drop n _).symm, ?_, hplain, fun o => ?_⟩
      · rw [← List.length_pos_iff, hlength]
        exact hpos
      · rw [hlength, ← atomAt_of_ok hatom o, ← atomAt_append hrest o]
        exact congrArg (atomAt o) (List.take_append_drop n _)

end RouteDoc.Json
