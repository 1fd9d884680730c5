import RouteDoc.Json.Writer
import RouteDoc.Proofs.Json.Written
import RouteDoc.Proofs.Text.Ascii

/-!
# Texts on one line

A value on one line, without blanks, is told from what follows it, and its kind is
seen from its text.

* `text`: the text of a value on one line, with `text_arr` and `text_obj` for what
  stands between brackets;
* `spells_writeChar`, `stringText_append_inj`: strings are spelled as they are read;
* `delimited_text`: no text is the beginning of another;
* `kindOf_text`: the kind of a value.
-/

namespace RouteDoc.Json

open Number (Binary64)
open Text (Ends ends_cons takeWhile_append_of_ends isDigit_of_mem_toString)

/-! ## Induction over values -/

/-- The values right below a value. -/
def members : Json → List Json
  | .arr xs => xs
  | .obj fields => fields.map (·.2)
  | _ => []

theorem sizeOf_lt_of_mem_members {v x : Json} (h : x ∈ v.members) : sizeOf x < sizeOf v := by
  cases v with
  | arr xs =>
    have hx : sizeOf x < sizeOf xs := List.sizeOf_lt_of_mem h
    simp only [arr.sizeOf_spec]
    omega
  | obj fields =>
    obtain ⟨⟨name, y⟩, he, rfl⟩ := List.mem_map.mp h
    have hfields : sizeOf (name, y) < sizeOf fields := List.sizeOf_lt_of_mem he
    simp only [Prod.mk.sizeOf_spec] at hfields
    simp only [obj.sizeOf_spec]
    omega
  | _ => cases h

/-- A property holds of all values if it passes from the members of a value to the
value. -/
theorem induction_on {P : Json → Prop} (v : Json)
    (step : ∀ v : Json, (∀ x ∈ v.members, P x) → P v) : P v :=
  step v fun x _ => induction_on x step
termination_by sizeOf v
decreasing_by exact sizeOf_lt_of_mem_members ‹_›

/-! ## Strings -/

/-- The digits of the escape of a 16-bit unit. -/
def unitDigits (n : Nat) : List Char :=
  [hexDigit (n / 4096 % 16), hexDigit (n / 256 % 16), hexDigit (n / 16 % 16), hexDigit (n % 16)]

theorem hexValue_hexDigit : ∀ n < 16, hexValue (hexDigit n) = some n := by decide

theorem hexQuad_unitDigits {n : Nat} (h : n < 0x10000) (cs : List Char) :
    hexQuad (unitDigits n ++ cs) = some n := by
  have digit : ∀ k, hexValue (hexDigit (k % 16)) = some (k % 16) := fun k =>
    hexValue_hexDigit _ (Nat.mod_lt k (by decide))
  have hsum : ((n / 4096 % 16 * 16 + n / 256 % 16) * 16 + n / 16 % 16) * 16 + n % 16 = n := by omega
  rw [unitDigits, List.cons_append, List.cons_append, List.cons_append, List.cons_append, hexQuad,
    digit, digit, digit, digit]
  exact congrArg some hsum

/-- A character of one unit is no surrogate. -/
theorem codePoint_unitDigits {c : Char} (h : c.toNat < 0x10000) (cs : List Char) :
    codePoint (unitDigits c.toNat ++ cs) = some (c, 4) := by
  have hvalid : c.toNat < 0xD800 ∨ 0xDFFF < c.toNat ∧ c.toNat < 0x110000 := c.valid
  have hhigh : (0xD800 ≤ c.toNat && c.toNat < 0xDC00 : Bool) = false := by
    rw [Bool.and_eq_false_iff, decide_eq_false_iff_not, decide_eq_false_iff_not]
    omega
  have hsurrogate : (0xD800 ≤ c.toNat && c.toNat < 0xE000 : Bool) = false := by
    rw [Bool.and_eq_false_iff, decide_eq_false_iff_not, decide_eq_false_iff_not]
    omega
  rw [codePoint_of_hexQuad (hexQuad_unitDigits h cs), hhigh, hsurrogate, if_neg Bool.false_ne_true,
    if_neg Bool.false_ne_true, Option.none_or, Char.ofNat_toNat]

/-- The escape of a character of two units. -/
def pairDigits (n : Nat) : List Char :=
  unitDigits (0xD800 + (n - 0x10000) / 0x400) ++
    '\\' :: 'u' :: unitDigits (0xDC00 + (n - 0x10000) % 0x400)

theorem codePoint_pairDigits {c : Char} (h : 0x10000 ≤ c.toNat) (cs : List Char) :
    codePoint (pairDigits c.toNat ++ cs) = some (c, 10) := by
  have hvalid : c.toNat < 0xD800 ∨ 0xDFFF < c.toNat ∧ c.toNat < 0x110000 := c.valid
  generalize hn : c.toNat = n at *
  have hhigh : (0xD800 ≤ 0xD800 + (n - 0x10000) / 0x400 &&
      0xD800 + (n - 0x10000) / 0x400 < 0xDC00 : Bool) = true := by
    rw [Bool.and_eq_true, decide_eq_true_eq, decide_eq_true_eq]
    omega
  have hlow : (0xDC00 ≤ 0xDC00 + (n - 0x10000) % 0x400 &&
      0xDC00 + (n - 0x10000) % 0x400 < 0xE000 : Bool) = true := by
    rw [Bool.and_eq_true, decide_eq_true_eq, decide_eq_true_eq]
    omega
  have hsum : 0x10000 + (0xD800 + (n - 0x10000) / 0x400 - 0xD800) * 0x400 +
      (0xDC00 + (n - 0x10000) % 0x400 - 0xDC00) = n := by omega
  have hquad : hexQuad (unitDigits (0xDC00 + (n - 0x10000) % 0x400) ++ cs) =
      some (0xDC00 + (n - 0x10000) % 0x400) := hexQuad_unitDigits (by omega) cs
  rw [pairDigits, List.append_assoc,
    codePoint_of_hexQuad (hexQuad_unitDigits (by omega) _), hhigh, if_pos rfl]
  change ((hexQuad (unitDigits (0xDC00 + (n - 0x10000) % 0x400) ++ cs)).bind _).or _ = _
  rw [hquad, Option.bind_some, surrogatePair, hlow, if_pos rfl, Option.some_or, hsum, ← hn,
    Char.ofNat_toNat]

/-- A character is written as it is read. -/
theorem spells_writeChar (c : Char) {cs s : List Char} (h : Spells cs s) :
    Spells (writeChar true c ++ cs) (c :: s) := by
  unfold writeChar
  split
  -- The first cases are the characters with an escape of their own.
  any_goals exact .escape rfl h
  rename_i hquote hslash _ _ _ _ _
  dsimp only
  split
  · rename_i hunit
    simp only [Bool.true_and, Bool.or_eq_true, Bool.and_eq_true, decide_eq_true_eq] at hunit
    exact .code (codePoint_unitDigits (by omega) cs) h
  · rename_i hunit
    simp only [Bool.true_and, Bool.or_eq_true, Bool.and_eq_true, decide_eq_true_eq] at hunit
    split
    · rename_i hpair
      simp only [Bool.true_and, decide_eq_true_eq] at hpair
      have hwritten : unitEscape (0xD800 + (c.toNat - 0x10000) / 0x400) ++
          unitEscape (0xDC00 + (c.toNat - 0x10000) % 0x400) =
            '\\' :: 'u' :: pairDigits c.toNat := rfl
      rw [hwritten]
      exact .code (codePoint_pairDigits hpair cs) h
    · exact .plain hquote hslash (by omega) h

theorem spells_flatMap_writeChar (s : List Char) : Spells (s.flatMap (writeChar true)) s := by
  induction s with
  | nil => exact .nil
  | cons c s ih => exact spells_writeChar c ih

/-- A string in quotes. -/
def stringText (s : String) : List Char := (writeString true s).toList

theorem stringText_eq (s : String) :
    stringText s = '"' :: (s.toList.flatMap (writeChar true) ++ ['"']) := by
  simp [stringText, writeString]

/-- A string ends at the quote that ends it. -/
theorem stringText_append_inj {s t : String} {r r' : List Char}
    (h : stringText s ++ r = stringText t ++ r') : s = t := by
  rw [stringText_eq, stringText_eq, List.cons_append, List.cons_append, List.append_assoc,
    List.append_assoc] at h
  obtain ⟨offset, hs⟩ := readChars_spelled (spells_flatMap_writeChar s.toList) 0 0 [] r
  obtain ⟨offset', ht⟩ := readChars_spelled (spells_flatMap_writeChar t.toList) 0 0 [] r'
  rw [← List.singleton_append, (List.cons.inj h).2, List.singleton_append, ht] at hs
  exact String.toList_inj.mp (Prod.mk.inj (Except.ok.inj hs)).1.symm

/-! ## Numbers -/

/-- The characters of numbers. -/
def isNumeral (c : Char) : Bool := c.isDigit || c == '-'

/-- The characters of numbers with a point or exponent. -/
def isFloatChar (c : Char) : Bool := isNumeral c || c == '.' || c == 'e' || c == '+'

/-- Characters of numbers, one of them a point or the mark of an exponent. -/
def FloatText (t : List Char) : Prop :=
  (∀ c ∈ t, isFloatChar c = true) ∧ ∃ c ∈ t, isNumeral c = false

theorem floatText_append_cons {mark : Char} {whole rest : List Char}
    (hmark : isFloatChar mark = true) (hnumeral : isNumeral mark = false)
    (hwhole : ∀ c ∈ whole, isFloatChar c = true) (hrest : ∀ c ∈ rest, isFloatChar c = true) :
    FloatText (whole ++ mark :: rest) := by
  refine ⟨fun c hc => ?_, mark, List.mem_append_right _ List.mem_cons_self, hnumeral⟩
  rcases List.mem_append.mp hc with hc | hc
  · exact hwhole c hc
  · rcases List.mem_cons.mp hc with rfl | hc
    · exact hmark
    · exact hrest c hc

theorem isFloatChar_of_isDigit {c : Char} (h : c.isDigit = true) : isFloatChar c = true := by
  simp [isFloatChar, isNumeral, h]

theorem isNumeral_of_mem_toString {n : Int} {c : Char} (h : c ∈ (toString n).toList) :
    isNumeral c = true := by
  have hdigit : ∀ {m : Nat}, c ∈ (toString m).toList → isNumeral c = true := fun hc => by
    simp [isNumeral, isDigit_of_mem_toString hc]
  cases n with
  | ofNat n => exact hdigit h
  | negSucc n =>
    change c ∈ ("-" ++ toString (n + 1)).toList at h
    rw [String.toList_append, List.mem_append] at h
    rcases h with h | h
    · rw [List.mem_singleton.mp h]
      rfl
    · exact hdigit h

theorem toList_pushn (s : String) (c : Char) (n : Nat) :
    (s.pushn c n).toList = s.toList ++ List.replicate n c := by
  rw [String.pushn_eq_repeat_push]
  induction n with
  | zero => simp [Nat.repeat]
  | succ n ih => rw [Nat.repeat, String.toList_push, ih, List.append_assoc, List.replicate_succ']

theorem floatText_pointed {digits : List Char} (h : ∀ c ∈ digits, c.isDigit = true) (k : Nat) :
    FloatText (Number.pointed digits k).toList := by
  have hpointed : (Number.pointed digits k).toList =
      digits.take k ++ '.' :: (if (digits.drop k).isEmpty then ['0'] else digits.drop k) := by
    rw [Number.pointed, String.toList_append, String.toList_append, String.toList_ofList,
      List.append_assoc]
    split <;> simp
  rw [hpointed]
  refine floatText_append_cons rfl rfl (fun c hc => ?_) fun c hc => ?_
  · exact isFloatChar_of_isDigit (h c (List.mem_of_mem_take hc))
  · split at hc
    · rw [List.mem_singleton.mp hc]
      rfl
    · exact isFloatChar_of_isDigit (h c (List.mem_of_mem_drop hc))

theorem isDigit_of_mem_padded {width n : Nat} {c : Char}
    (h : c ∈ (Number.padded width n).toList) : c.isDigit = true := by
  rw [Number.padded, String.toList_append, toList_pushn, List.mem_append, List.mem_append] at h
  rcases h with (h | h) | h
  · cases h
  · rw [List.eq_of_mem_replicate h]
    rfl
  · exact isDigit_of_mem_toString h

theorem floatText_layOut (l : Number.DecimalLayout) (digits : Nat) (exponent : Int) :
    FloatText (l.layOut digits exponent).toList := by
  have hdigits : ∀ c ∈ (toString digits).toList, c.isDigit = true :=
    fun _ => isDigit_of_mem_toString
  unfold Number.DecimalLayout.layOut
  dsimp only
  generalize (toString digits).toList = ds at *
  generalize exponent + (ds.length : Int) - 1 = first
  split
  · split
    · have hzeros : ("0." ++ "".pushn '0' (-first - 1).toNat ++ String.ofList ds).toList =
          ['0'] ++ '.' :: (List.replicate (-first - 1).toNat '0' ++ ds) := by
        rw [String.toList_append, String.toList_append, toList_pushn, @String.toList_ofList ds]
        rfl
      rw [hzeros]
      refine floatText_append_cons rfl rfl (List.forall_mem_singleton.mpr rfl) fun c hc => ?_
      rcases List.mem_append.mp hc with hc | hc
      · rw [List.eq_of_mem_replicate hc]
        rfl
      · exact isFloatChar_of_isDigit (hdigits c hc)
    · refine floatText_pointed (fun c hc => ?_) _
      rcases List.mem_append.mp hc with hc | hc
      · exact hdigits c hc
      · rw [List.eq_of_mem_replicate hc]
        rfl
  · have hmark : ∀ head sign exp : String, (head ++ "e" ++ sign ++ exp).toList =
        head.toList ++ 'e' :: (sign.toList ++ exp.toList) := fun _ _ _ => by simp
    rw [hmark]
    refine floatText_append_cons rfl rfl (fun c hc => ?_) fun c hc => ?_
    · split at hc
      · rw [String.toList_ofList] at hc
        exact isFloatChar_of_isDigit (hdigits c hc)
      · exact (floatText_pointed hdigits 1).1 c hc
    · rcases List.mem_append.mp hc with hc | hc
      · have hsign : ∀ c ∈ (if first < 0 then "-" else "+").toList, isFloatChar c = true := by
          split <;> exact List.all_eq_true.mp rfl
        exact hsign c hc
      · exact isFloatChar_of_isDigit (isDigit_of_mem_padded hc)

theorem floatText_finite (negative : Bool) (mantissa : Nat) (exponent : Int) :
    FloatText (writeFloat (.finite negative mantissa exponent)).toList := by
  have hsign : ∀ s : String, FloatText s.toList →
      FloatText ((if negative then "-" else "") ++ s).toList := by
    intro s hs
    cases negative with
    | false => exact hs
    | true =>
      rw [if_pos rfl, String.toList_append]
      obtain ⟨c, hc, hmark⟩ := hs.2
      refine ⟨fun d hd => ?_, c, List.mem_append_right _ hc, hmark⟩
      rcases List.mem_append.mp hd with hd | hd
      · rw [List.mem_singleton.mp hd]
        rfl
      · exact hs.1 d hd
  unfold writeFloat Binary64.report Binary64.text
  dsimp only
  split
  · exact hsign "0.0" ⟨List.all_eq_true.mp rfl, '.', List.mem_cons_of_mem _ List.mem_cons_self, rfl⟩
  · exact hsign _ (floatText_layOut _ _ _)

/-! ## Values -/

/-- The text of a value on one line. -/
def text (v : Json) : List Char := (write ⟨false, ":", true⟩ 0 v).toList

/-- The text of a field. -/
def fieldText (field : String × Json) : List Char := stringText field.1 ++ ':' :: text field.2

theorem writeItems_eq (l : Layout) (level : Nat) (xs : List Json) :
    writeItems l level xs = xs.map (write l level) := by
  induction xs with
  | nil => rfl
  | cons x xs ih => rw [writeItems, ih, List.map_cons]

theorem writeFields_eq (l : Layout) (level : Nat) (fields : List (String × Json)) :
    writeFields l level fields =
      fields.map fun e => writeString l.ascii e.1 ++ l.colon ++ write l level e.2 := by
  induction fields with
  | nil => rfl
  | cons e fields ih => rw [writeFields, ih, List.map_cons]

/-- On one line the level of indentation makes no difference. -/
theorem write_line (level : Nat) (v : Json) :
    write ⟨false, ":", true⟩ level v = write ⟨false, ":", true⟩ 0 v := by
  induction v using induction_on generalizing level with
  | step v ih =>
    cases v with
    | arr xs =>
      rw [write, write, writeItems_eq, writeItems_eq, Layout.enclose, Layout.enclose]
      have hitems : xs.map (write ⟨false, ":", true⟩ (level + 1)) =
          xs.map (write ⟨false, ":", true⟩ (0 + 1)) :=
        List.map_congr_left fun x hx => (ih x hx _).trans (ih x hx _).symm
      rw [hitems]
      rfl
    | obj fields =>
      rw [write, write, writeFields_eq, writeFields_eq, Layout.enclose, Layout.enclose]
      have hfields : (fields.map fun e =>
            writeString true e.1 ++ ":" ++ write ⟨false, ":", true⟩ (level + 1) e.2) =
          fields.map fun e =>
            writeString true e.1 ++ ":" ++ write ⟨false, ":", true⟩ (0 + 1) e.2 :=
        List.map_congr_left fun e he => by
          have hmem : e.2 ∈ (obj fields).members := List.mem_map_of_mem he
          rw [ih _ hmem (level + 1), ih _ hmem (0 + 1)]
      rw [hfields]
      rfl
    | _ => rfl

theorem toList_enclose (level : Nat) (opening closing : String) (items : List String) :
    (Layout.enclose ⟨false, ":", true⟩ level opening closing items).toList =
      opening.toList ++ [','].intercalate (items.map String.toList) ++ closing.toList := by
  rw [Layout.enclose]
  split
  · rename_i h
    rw [List.isEmpty_iff.mp h, String.toList_append]
    simp
  · rw [if_neg Bool.false_ne_true, String.toList_append, String.toList_append,
      String.toList_intercalate]
    rfl

theorem text_arr (xs : List Json) :
    text (.arr xs) = '[' :: ([','].intercalate (xs.map text) ++ [']']) := by
  rw [text, write, writeItems_eq, toList_enclose, List.map_map]
  have hitems : xs.map (String.toList ∘ write ⟨false, ":", true⟩ (0 + 1)) = xs.map text :=
    List.map_congr_left fun x _ => congrArg String.toList (write_line _ x)
  rw [hitems]
  rfl

theorem text_obj (fields : List (String × Json)) :
    text (.obj fields) = '{' :: ([','].intercalate (fields.map fieldText) ++ ['}']) := by
  rw [text, write, writeFields_eq, toList_enclose, List.map_map]
  have hfields : fields.map (String.toList ∘ fun e =>
      writeString true e.1 ++ ":" ++ write ⟨false, ":", true⟩ (0 + 1) e.2) =
        fields.map fieldText :=
    List.map_congr_left fun e _ => by
      rw [Function.comp_apply, write_line, String.toList_append, String.toList_append,
        List.append_assoc]
      rfl
  rw [hfields]
  rfl

/-! ## Where a text ends -/

/-- The mark that opens a value, if one does. -/
def opening : Json → Option Char
  | .str _ => some '"'
  | .arr _ => some '['
  | .obj _ => some '{'
  | _ => none

theorem isPlain_of_isFloatChar {c : Char} (h : isFloatChar c = true) : isPlain c = true := by
  simp only [isFloatChar, isNumeral, Bool.or_eq_true, beq_iff_eq] at h
  rcases h with (((h | rfl) | rfl) | rfl) | rfl
  · exact isPlain_of_isDigit h
  all_goals rfl

theorem isFloatChar_of_isNumeral {c : Char} (h : isNumeral c = true) : isFloatChar c = true := by
  simp [isFloatChar, h]

/-- Numbers and words consist of plain characters. -/
theorem isPlain_of_mem_text {v : Json} (h : v.opening = none) {c : Char} (hc : c ∈ text v) :
    isPlain c = true := by
  cases v with
  | null => exact List.all_eq_true.mp (rfl : "null".toList.all isPlain = true) c hc
  | bool b =>
    cases b with
    | true => exact List.all_eq_true.mp (rfl : "true".toList.all isPlain = true) c hc
    | false => exact List.all_eq_true.mp (rfl : "false".toList.all isPlain = true) c hc
  | int n =>
    exact isPlain_of_isFloatChar (isFloatChar_of_isNumeral (isNumeral_of_mem_toString hc))
  | float x =>
    cases x with
    | nan => exact List.all_eq_true.mp (rfl : "NaN".toList.all isPlain = true) c hc
    | infinite negative =>
      cases negative with
      | true => exact List.all_eq_true.mp (rfl : "-Infinity".toList.all isPlain = true) c hc
      | false => exact List.all_eq_true.mp (rfl : "Infinity".toList.all isPlain = true) c hc
    | finite negative mantissa exponent =>
      exact isPlain_of_isFloatChar ((floatText_finite negative mantissa exponent).1 c hc)
  | str _ | arr _ | obj _ => cases h

/-- A text begins with the mark that opens its value, or with a plain character. -/
theorem exists_text_eq_cons (v : Json) : ∃ c cs, text v = c :: cs ∧
    (v.opening = none ∧ isPlain c = true ∨ v.opening = some c ∧ isPlain c = false) := by
  have hplain : v.opening = none → text v ≠ [] → ∃ c cs, text v = c :: cs ∧
      (v.opening = none ∧ isPlain c = true ∨ v.opening = some c ∧ isPlain c = false) := by
    intro hv hne
    obtain ⟨c, cs, ht⟩ := List.exists_cons_of_ne_nil hne
    exact ⟨c, cs, ht, .inl ⟨hv, isPlain_of_mem_text hv (ht ▸ List.mem_cons_self)⟩⟩
  cases v with
  | null => exact hplain rfl (by decide)
  | bool b => exact hplain rfl (by cases b <;> decide)
  | int n =>
    refine hplain rfl ?_
    cases n with
    | ofNat n =>
      change n.repr.toList ≠ []
      rw [Nat.toList_repr]
      exact List.length_pos_iff.mp Nat.length_toDigits_pos
    | negSucc n =>
      change ("-" ++ (n + 1).repr).toList ≠ []
      simp
  | float x =>
    refine hplain rfl ?_
    cases x with
    | nan => decide
    | infinite negative => cases negative <;> decide
    | finite negative mantissa exponent =>
      obtain ⟨c, hc, -⟩ := (floatText_finite negative mantissa exponent).2
      exact List.ne_nil_of_mem hc
  | str s => exact ⟨_, _, stringText_eq s, .inr ⟨rfl, rfl⟩⟩
  | arr xs => exact ⟨_, _, text_arr xs, .inr ⟨rfl, rfl⟩⟩
  | obj fields => exact ⟨_, _, text_obj fields, .inr ⟨rfl, rfl⟩⟩

theorem opening_congr {v w : Json} {r r' : List Char} (h : text v ++ r = text w ++ r') :
    v.opening = w.opening := by
  obtain ⟨c, cs, hv, hc⟩ := exists_text_eq_cons v
  obtain ⟨d, ds, hw, hd⟩ := exists_text_eq_cons w
  rw [hv, hw, List.cons_append, List.cons_append] at h
  obtain rfl := (List.cons.inj h).1
  rcases hc with ⟨hv, hplain⟩ | ⟨hv, hmark⟩ <;> rcases hd with ⟨hw, hplain'⟩ | ⟨hw, hmark'⟩
  · rw [hv, hw]
  · exact absurd hplain (by rw [hmark']; exact Bool.false_ne_true)
  · exact absurd hplain' (by rw [hmark]; exact Bool.false_ne_true)
  · rw [hv, hw]

theorem isStart_text (v : Json) : ∃ c cs, text v = c :: cs ∧ isStart c = true := by
  obtain ⟨c, cs, hv, ⟨-, hc⟩ | ⟨hc, -⟩⟩ := exists_text_eq_cons v
  · exact ⟨c, cs, hv, by simp [isStart, hc]⟩
  · refine ⟨c, cs, hv, ?_⟩
    cases v <;> cases hc <;> rfl

/-- A text is told from what follows it, if that does not begin with a plain
character. -/
def Delimited {α : Type} (t : α → List Char) (x : α) : Prop :=
  ∀ y r r', Ends isPlain r → Ends isPlain r' → t x ++ r = t y ++ r' → t x = t y

theorem intercalate_comma (x : List Char) (xs : List (List Char)) :
    [','].intercalate (x :: xs) = x ++ xs.flatMap (',' :: ·) := by
  induction xs generalizing x with
  | nil => simp
  | cons y ys ih => rw [List.intercalate_cons_cons, ih, List.flatMap_cons, List.append_assoc]; rfl

section Rows

variable {α : Type} {t : α → List Char} {close : Char}
  (hclose : isStart close = false) (hcomma : close ≠ ',')
include hclose hcomma

/-- Items after commas are told from each other up to the mark that closes them. -/
theorem map_eq_of_commas {xs ys : List α} (hxs : ∀ x ∈ xs, Delimited t x) {r r' : List Char}
    (h : (xs.map t).flatMap (',' :: ·) ++ close :: r =
      (ys.map t).flatMap (',' :: ·) ++ close :: r') : xs.map t = ys.map t := by
  have hends : ∀ (zs : List α) (r : List Char),
      Ends isPlain ((zs.map t).flatMap (',' :: ·) ++ close :: r) := by
    intro zs r
    cases zs with
    | nil =>
      refine ends_cons.mpr (Bool.eq_false_iff.mpr fun hplain => ?_)
      simp [isStart, hplain] at hclose
    | cons z zs => exact ends_cons.mpr rfl
  induction xs generalizing ys with
  | nil =>
    cases ys with
    | nil => rfl
    | cons y ys => exact absurd (List.cons.inj h).1 hcomma
  | cons x xs ih =>
    cases ys with
    | nil => exact absurd (List.cons.inj h).1.symm hcomma
    | cons y ys =>
      obtain ⟨hx, hxs⟩ := List.forall_mem_cons.mp hxs
      simp only [List.map_cons, List.flatMap_cons, List.cons_append, List.append_assoc] at h
      have hitems := (List.cons.inj h).2
      have hxy := hx y _ _ (hends xs r) (hends ys r') hitems
      rw [hxy] at hitems
      rw [List.map_cons, List.map_cons, hxy, ih hxs (List.append_cancel_left hitems)]

theorem map_eq_of_intercalate (hstart : ∀ x, ∃ c cs, t x = c :: cs ∧ isStart c = true)
    {xs ys : List α} (hxs : ∀ x ∈ xs, Delimited t x) {r r' : List Char}
    (h : [','].intercalate (xs.map t) ++ close :: r =
      [','].intercalate (ys.map t) ++ close :: r') : xs.map t = ys.map t := by
  have hopen : ∀ (y : α) (rest : List Char),
      t y ++ rest ≠ close :: r ∧ t y ++ rest ≠ close :: r' := by
    intro y rest
    obtain ⟨c, cs, hy, hc⟩ := hstart y
    have hne := ne_of_isStart hc hclose
    rw [hy]
    exact ⟨fun he => hne (List.cons.inj he).1, fun he => hne (List.cons.inj he).1⟩
  cases xs with
  | nil =>
    cases ys with
    | nil => rfl
    | cons y ys =>
      rw [List.map_cons, intercalate_comma, List.append_assoc] at h
      exact absurd h.symm (hopen y _).1
  | cons x xs =>
    cases ys with
    | nil =>
      rw [List.map_cons, intercalate_comma, List.append_assoc] at h
      exact absurd h (hopen x _).2
    | cons y ys =>
      rw [List.map_cons, intercalate_comma, List.map_cons, intercalate_comma] at h
      exact map_eq_of_commas hclose hcomma hxs (congrArg (',' :: ·) h)

end Rows

theorem delimited_fieldText {field : String × Json} (h : Delimited text field.2) :
    Delimited fieldText field := by
  intro field' r r' hr hr' heq
  rw [fieldText, fieldText, List.append_assoc, List.append_assoc] at heq
  have hname := stringText_append_inj heq
  rw [hname] at heq
  have hvalue := h _ _ _ hr hr' (List.cons.inj (List.append_cancel_left heq)).2
  rw [fieldText, fieldText, hname, hvalue]

theorem map_text_of_append {xs ys : List Json} (hxs : ∀ x ∈ xs, Delimited text x)
    {r r' : List Char} (h : text (.arr xs) ++ r = text (.arr ys) ++ r') :
    xs.map text = ys.map text := by
  rw [text_arr, text_arr, List.cons_append, List.cons_append, List.append_assoc,
    List.append_assoc] at h
  exact map_eq_of_intercalate (by decide) (by decide) isStart_text hxs (List.cons.inj h).2

theorem map_fieldText_of_append {fields fields' : List (String × Json)}
    (hfields : ∀ e ∈ fields, Delimited text e.2) {r r' : List Char}
    (h : text (.obj fields) ++ r = text (.obj fields') ++ r') :
    fields.map fieldText = fields'.map fieldText := by
  have hstart : ∀ e, ∃ c cs, fieldText e = c :: cs ∧ isStart c = true := fun e =>
    ⟨_, _, congrArg (· ++ ':' :: text e.2) (stringText_eq e.1), rfl⟩
  rw [text_obj, text_obj, List.cons_append, List.cons_append, List.append_assoc,
    List.append_assoc] at h
  exact map_eq_of_intercalate (by decide) (by decide) hstart
    (fun e he => delimited_fieldText (hfields e he)) (List.cons.inj h).2

/-- No text is the beginning of another, if no plain character follows. -/
theorem delimited_text (v : Json) : Delimited text v := by
  induction v using induction_on with
  | step v ih =>
    intro w r r' hr hr' h
    have hopening := opening_congr h
    cases hv : v.opening with
    | none =>
      have hself : ∀ {u : Json}, u.opening = none → (text u).takeWhile isPlain = text u :=
        fun hu => List.takeWhile_eq_self_iff.mpr fun _ hc => isPlain_of_mem_text hu hc
      rw [← hself hv, ← takeWhile_append_of_ends hr, h, takeWhile_append_of_ends hr',
        hself (hopening ▸ hv)]
    | some mark =>
      cases v with
      | str s =>
        cases w with
        | str s' => exact congrArg stringText (stringText_append_inj h)
        | _ => cases hopening
      | arr xs =>
        cases w with
        | arr ys =>
          have hitems : xs.map text = ys.map text := map_text_of_append ih h
          rw [text_arr, text_arr, hitems]
        | _ => cases hopening
      | obj fields =>
        cases w with
        | obj fields' =>
          rw [text_obj, text_obj,
            map_fieldText_of_append (fun e he => ih _ (List.mem_map_of_mem he)) h]
        | _ => cases hopening
      | _ => cases hv

theorem text_arr_inj {xs ys : List Json} :
    text (.arr xs) = text (.arr ys) ↔ xs.map text = ys.map text := by
  constructor
  · exact fun h => map_text_of_append (fun x _ => delimited_text x) (congrArg (· ++ []) h)
  · intro h
    rw [text_arr, text_arr, h]

theorem text_obj_inj {fields fields' : List (String × Json)} :
    text (.obj fields) = text (.obj fields') ↔
      fields.map (fun e => (e.1, text e.2)) = fields'.map fun e => (e.1, text e.2) := by
  have hsplit : ∀ fs : List (String × Json), fs.map fieldText =
      (fs.map fun e => (e.1, text e.2)).map fun p => stringText p.1 ++ ':' :: p.2 := fun fs => by
    rw [List.map_map]
    exact List.map_congr_left fun _ _ => rfl
  constructor
  · intro h
    have hfields : fields.map fieldText = fields'.map fieldText :=
      map_fieldText_of_append (fun e _ => delimited_text e.2) (congrArg (· ++ []) h)
    rw [hsplit, hsplit] at hfields
    refine (List.map_inj_right ?_).mp hfields
    rintro ⟨name, t⟩ ⟨name', t'⟩ heq
    have hnames : stringText name ++ ':' :: t = stringText name' ++ ':' :: t' := heq
    obtain rfl := stringText_append_inj hnames
    rw [(List.cons.inj (List.append_cancel_left hnames)).2]
  · intro h
    rw [text_obj, text_obj, hsplit, hsplit, h]

/-! ## Kinds -/

/-- The kinds of values. -/
inductive Kind
  | null
  | bool
  | int
  | float
  | str
  | arr
  | obj
  deriving DecidableEq

/-- The kind of a value. -/
def kind : Json → Kind
  | .null => .null
  | .bool _ => .bool
  | .int _ => .int
  | .float _ => .float
  | .str _ => .str
  | .arr _ => .arr
  | .obj _ => .obj

/-- The kind of a value that begins with a character and consists of digits and signs or
not. -/
def kindAt (c : Char) (numeral : Bool) : Kind :=
  if c == 'n' then .null
  else if c == 't' || c == 'f' then .bool
  else if c == '"' then .str
  else if c == '[' then .arr
  else if c == '{' then .obj
  else if numeral then .int
  else .float

/-- The kind of the value that a text is the text of. -/
def kindOf : List Char → Option Kind
  | [] => none
  | c :: cs => some (kindAt c ((c :: cs).all isNumeral))

theorem kindAt_of_isFloatChar {c : Char} (h : isFloatChar c = true) (numeral : Bool) :
    kindAt c numeral = if numeral then .int else .float := by
  have hne : ∀ d, isFloatChar d = false → (c == d) = false := by
    intro d hd
    refine beq_eq_false_iff_ne.mpr ?_
    rintro rfl
    rw [h] at hd
    cases hd
  rw [kindAt, hne 'n' rfl, hne 't' rfl, hne 'f' rfl, hne '"' rfl, hne '[' rfl, hne '{' rfl]
  rfl

/-- Each kind of values has texts of its own. -/
theorem kindOf_text (v : Json) : kindOf (text v) = some v.kind := by
  cases v with
  | null => rfl
  | bool b => cases b <;> rfl
  | int n =>
    have hall : (text (.int n)).all isNumeral = true :=
      List.all_eq_true.mpr fun c hc => isNumeral_of_mem_toString hc
    obtain ⟨c, cs, ht, -⟩ := exists_text_eq_cons (.int n)
    rw [ht] at hall ⊢
    rw [kindOf, hall, kindAt_of_isFloatChar (isFloatChar_of_isNumeral
      (List.all_eq_true.mp hall c List.mem_cons_self))]
    rfl
  | float x =>
    cases x with
    | nan => rfl
    | infinite negative => cases negative <;> rfl
    | finite negative mantissa exponent =>
      obtain ⟨hchars, m, hm, hmark⟩ := floatText_finite negative mantissa exponent
      change kindOf (writeFloat (.finite negative mantissa exponent)).toList = some .float
      cases ht : (writeFloat (.finite negative mantissa exponent)).toList with
      | nil => exact absurd (ht ▸ hm) List.not_mem_nil
      | cons c cs =>
        rw [ht] at hchars hm
        have hall : (c :: cs).all isNumeral = false :=
          List.all_eq_false.mpr ⟨m, hm, by simp [hmark]⟩
        rw [kindOf, hall, kindAt_of_isFloatChar (hchars c List.mem_cons_self)]
        rfl
  | str s =>
    change kindOf (stringText s) = _
    rw [stringText_eq]
    rfl
  | arr xs =>
    rw [text_arr]
    rfl
  | obj fields =>
    rw [text_obj]
    rfl

theorem kind_eq_of_text_eq {v w : Json} (h : text v = text w) : v.kind = w.kind := by
  rw [← Option.some_inj, ← kindOf_text, h, kindOf_text]

end RouteDoc.Json
