import Mathlib.Data.List.Induction
import RouteDoc.Proofs.Json.Calm

/-!
# Texts on several lines

A value is read back from its indented text, whose escapes stand for no marks.

* `Legible`: values that can be read back, of natural numbers those that are not too long;
* `laid_write`: the indented text of a value writes it, is calm and has its marks;
* `short_of_readList`: integers that are read are not too long.
-/

namespace RouteDoc.Json

/-! ## Integers -/

theorem digitsValue_eq (ds : List Char) : digitsValue ds = Nat.ofDigitChars 10 ds 0 := by
  rw [digitsValue, Nat.ofDigitChars_eq_foldl]
  congr 1
  funext n d
  rw [Nat.mul_comm]
  rfl

/-- Only the digits of zero begin with a zero. -/
theorem head?_toDigits {n : Nat} (h : 0 < n) : (Nat.toDigits 10 n).head? ≠ some '0' := by
  induction n using Nat.strong_induction_on with
  | h n ih =>
    by_cases hn : n < 10
    · rw [Nat.toDigits_of_lt_base hn]
      have hdigits : ∀ k < 10, 0 < k → [Nat.digitChar k].head? ≠ some '0' := by decide
      exact hdigits n hn h
    · rw [Nat.toDigits_of_base_le (by decide) (Nat.le_of_not_lt hn), List.head?_append]
      obtain ⟨d, ds, hd⟩ := List.exists_cons_of_ne_nil (Nat.toDigits_ne_nil (b := 10) (n := n / 10))
      have hhead := ih (n / 10) (by omega) (by omega)
      rw [hd] at hhead ⊢
      exact hhead

/-- A number is read as a whole. -/
theorem wholeOf_toDigits (n : Nat) : wholeOf (Nat.toDigits 10 n) = Nat.toDigits 10 n := by
  rw [wholeOf_eq]
  split
  · rename_i hzero
    cases n with
    | zero => rfl
    | succ n => exact absurd (beq_iff_eq.mp hzero) (head?_toDigits (Nat.succ_pos n))
  · exact List.takeWhile_eq_self_iff.mpr fun _ =>
      Nat.isDigit_of_mem_toDigits (by decide) (by decide)

theorem wordAt_of_isDigit {d : Char} (hd : d.isDigit = true) (ds : List Char) :
    wordAt (d :: ds) = none := by
  have hne : ∀ c : Char, c.isDigit = false → (c == d) = false := fun c hc =>
    beq_eq_false_iff_ne.mpr fun he => by rw [he, hd] at hc; cases hc
  simp [wordAt, literals, List.isPrefixOf, hne]

/-- A natural number that is not too long is read from its digits. -/
theorem atomAt_toDigits {n : Nat} (h : n < 10 ^ maxIntegerDigits) (offset : Nat) :
    atomAt offset (Nat.toDigits 10 n) = .ok (.int n, (Nat.toDigits 10 n).length) := by
  have hlength : (Nat.toDigits 10 n).length ≤ maxIntegerDigits :=
    (Nat.length_toDigits_le_iff (by decide) (by decide)).mpr h
  have hvalue : digitsValue (Nat.toDigits 10 n) = n := by
    rw [digitsValue_eq, Nat.ofDigitChars_ten_toDigits]
  have hwhole := wholeOf_toDigits n
  obtain ⟨d, ds, hds⟩ := List.exists_cons_of_ne_nil (Nat.toDigits_ne_nil (b := 10) (n := n))
  have hd : d.isDigit = true :=
    Nat.isDigit_of_mem_toDigits (by decide) (by decide) (hds ▸ List.mem_cons_self)
  rw [hds] at hlength hvalue hwhole ⊢
  have hminus : ((d :: ds).head? == some '-') = false :=
    beq_eq_false_iff_ne.mpr fun he => by cases he; cases hd
  have hunsigned : unsigned (d :: ds) = d :: ds := by
    rw [unsigned, hminus, if_neg Bool.false_ne_true]
  have hafter : afterWhole (d :: ds) = [] := by rw [afterWhole, hunsigned, hwhole, List.drop_length]
  have hfraction : afterFraction (d :: ds) = [] := by rw [afterFraction, hafter, List.drop_nil]
  have hnumber : numberAt offset (d :: ds) = .ok (.int n) := by
    rw [numberAt, hminus, hunsigned, hwhole, hafter, hfraction]
    simpa [numberValue, fractionOf, exponentOf, hvalue] using hlength
  have hspan : numberLength (d :: ds) = (d :: ds).length := by
    rw [numberLength, hunsigned, hwhole, hafter, hfraction, signLength, hminus]
    exact Nat.zero_add _
  rw [atomAt, wordAt_of_isDigit hd, hnumber, hspan]
  rfl

theorem text_nat (n : Nat) : text (.int n) = Nat.toDigits 10 n := Nat.toList_repr

/-- The digits of a natural number that is not too long are an atom. -/
theorem isAtom_nat {n : Nat} (h : n < 10 ^ maxIntegerDigits) :
    IsAtom (.int n) (text (.int n)) := by
  have hdigit : ∀ c ∈ Nat.toDigits 10 n, c.isDigit = true := fun _ =>
    Nat.isDigit_of_mem_toDigits (by decide) (by decide)
  rw [text_nat]
  exact ⟨Nat.toDigits_ne_nil, fun c hc => isPlain_of_isDigit (hdigit c hc), atomAt_toDigits h⟩

/-! ## Integers that are read -/

/-- No integer in a value is too long. -/
inductive Short : Json → Prop
  | of {v : Json} (hint : ∀ n, v = .int n → n.natAbs < 10 ^ maxIntegerDigits)
      (hmembers : ∀ x ∈ v.members, Short x) : Short v

theorem digitsValue_append (ds : List Char) (d : Char) :
    digitsValue (ds ++ [d]) = digitsValue ds * 10 + (d.toNat - 48) := by
  rw [digitsValue, List.foldl_append]
  rfl

theorem digitsValue_lt {ds : List Char} (h : ∀ d ∈ ds, d.isDigit = true) :
    digitsValue ds < 10 ^ ds.length := by
  induction ds using List.reverseRecOn with
  | nil => decide
  | append_singleton ds d ih =>
    have hd : d.toNat ≤ 57 := by
      have hdigit := h d (List.mem_append_right _ List.mem_cons_self)
      exact UInt32.le_iff_toNat_le.mp (of_decide_eq_true ((Bool.and_eq_true _ _).mp hdigit).2)
    have hds := ih fun c hc => h c (List.mem_append_left _ hc)
    rw [digitsValue_append, List.length_append, List.length_singleton, Nat.pow_succ]
    omega

theorem isDigit_of_mem_wholeOf {cs : List Char} {d : Char} (h : d ∈ wholeOf cs) :
    d.isDigit = true := by
  rw [wholeOf_eq] at h
  split at h
  · rw [List.mem_singleton.mp h]
    rfl
  · exact List.mem_takeWhile_imp h

theorem IsAtom.short {v : Json} {t : List Char} (h : IsAtom v t) : Short v := by
  refine .of (fun n hn => ?_) fun x hx => ?_
  · subst hn
    have hnumber : numberAt 0 t = .ok (.int n) := by
      have hliterals : ∀ l ∈ literals, l.2 ≠ .int n := by simp [literals]
      have hvalue := h.value 0
      unfold atomAt at hvalue
      split at hvalue
      · rename_i hword
        exact absurd (Prod.mk.inj (Except.ok.inj hvalue)).1
          (hliterals _ (List.mem_of_find?_eq_some hword))
      · cases hnumber : numberAt 0 t with
        | error e =>
          rw [hnumber] at hvalue
          cases hvalue
        | ok v =>
          rw [hnumber] at hvalue
          exact congrArg _ (Prod.mk.inj (Except.ok.inj hvalue)).1
    unfold numberAt numberValue at hnumber
    split at hnumber
    · cases hnumber
    · split at hnumber
      · split at hnumber
        · cases hnumber
        · rename_i hlength
          have hlt := @digitsValue_lt (wholeOf (unsigned t)) fun _ => isDigit_of_mem_wholeOf
          have hmax : digitsValue (wholeOf (unsigned t)) < 10 ^ maxIntegerDigits :=
            hlt.trans_le (Nat.pow_le_pow_right (by decide) (Nat.le_of_not_lt hlength))
          obtain rfl := Json.int.inj (Except.ok.inj hnumber)
          split
          · rwa [Int.natAbs_neg]
          · exact hmax
      · cases hnumber
  · have hscalar := h.isScalar
    cases v with
    | arr _ | obj _ => cases hscalar
    | _ => cases hx

/-- No integer in a value that is read is too long. -/
theorem short_of_readList {text : List Char} {v : Json} (h : readList text = .ok v) : Short v := by
  obtain ⟨_, _, _, -, -, -, hwritten⟩ := exists_written h
  refine hwritten.all IsAtom.short (fun s => .of nofun nofun) (fun hxs => .of nofun hxs)
    fun {fs} hfs => .of nofun fun x hx => ?_
  obtain ⟨f, hf, rfl⟩ := List.mem_map.mp hx
  exact hfs f (Entries.mem_of_mem_ofList hf)

/-! ## Values -/

/-- Values that can be read back: their numbers are natural and not too long, and their
objects give each name once. -/
inductive Legible : Json → Prop
  | null : Legible .null
  | bool (b : Bool) : Legible (.bool b)
  | nat {n : Nat} (h : n < 10 ^ maxIntegerDigits) : Legible (.int n)
  | str (s : String) : Legible (.str s)
  | arr {xs : List Json} (h : ∀ x ∈ xs, Legible x) : Legible (.arr xs)
  | obj {fields : Fields} (hnames : (fields.map (·.1)).Nodup) (h : ∀ f ∈ fields, Legible f.2) :
      Legible (.obj fields)

/-- Layouts on several lines. -/
def onLines : Layout := ⟨true, ": ", true⟩

/-- A line break with blanks. -/
def breakText (level : Nat) : List Char := '\n' :: List.replicate (2 * level) ' '

theorem toList_newline (level : Nat) : (newline level).toList = breakText level := by
  rw [newline, String.toList_append, toList_pushn]
  rfl

/-- Parts on lines of their own, up to the bracket that closes them. -/
def rowsText (level : Nat) (close : Char) (ts : List (List Char)) : List Char :=
  (',' :: breakText (level + 1)).intercalate ts ++ (breakText level ++ [close])

theorem toList_enclose_onLines (level : Nat) (opening close : Char) (items : List String) :
    (onLines.enclose level (String.ofList [opening]) (String.ofList [close]) items).toList =
      opening :: if items.isEmpty then [close]
        else breakText (level + 1) ++ rowsText level close (items.map String.toList) := by
  rw [Layout.enclose]
  split
  · simp
  · rw [if_pos (show onLines.lines = true from rfl)]
    simp [String.toList_intercalate, toList_newline, rowsText]

theorem blanks_breakText (level : Nat) : Blanks (breakText level) := by
  intro c hc
  rcases List.mem_cons.mp hc with rfl | hc
  · rfl
  · rw [List.eq_of_mem_replicate hc]
    rfl

/-- A text that writes a part, is calm and has the marks of the part. -/
structure Laid (p : Part) (t : List Char) : Prop where
  written : Written Any 0 p t
  calm : Calm t
  marks : markCount t = p.marks

section Laid

variable {t u : List Char} {level : Nat}

theorem laid_atom {v : Json} (h : IsAtom v (text v)) : Laid (.value v) (text v) where
  written := .atom h
  calm := calm_of_isPlain h.plain
  marks := rfl

theorem calm_breakText_append (level : Nat) (h : Calm t) : Calm (breakText level ++ t) := by
  refine (calm_self fun c hc => ?_).append h
  rcases List.mem_cons.mp hc with rfl | hc
  · decide
  · rw [List.eq_of_mem_replicate hc]
    decide

theorem markCount_breakText_append (level : Nat) (t : List Char) :
    markCount (breakText level ++ t) = markCount t := by
  rw [markCount_append, markCount_eq_zero.mpr, Nat.zero_add]
  intro c hc
  rcases List.mem_cons.mp hc with rfl | hc
  · rfl
  · rw [List.eq_of_mem_replicate hc]
    rfl

theorem Laid.lastItem {v : Json} (h : Laid (.value v) t) :
    Laid (.items [v]) (t ++ (breakText level ++ [']'])) where
  written := .lastItem h.written (blanks_breakText level)
  calm := h.calm.append (calm_breakText_append level (.plain (by decide) rfl .nil))
  marks := by
    rw [markCount_append, markCount_breakText_append, h.marks]
    rfl

theorem Laid.moreItems {v : Json} {xs : List Json} (h : Laid (.value v) t)
    (hs : Laid (.items xs) u) :
    Laid (.items (v :: xs)) (t ++ ',' :: (breakText level ++ u)) where
  written := .moreItems h.written blanks_nil (blanks_breakText level) hs.written
  calm := h.calm.append (.plain (by decide) rfl (calm_breakText_append level hs.calm))
  marks := by
    rw [markCount_append, markCount_cons_of_not rfl, markCount_breakText_append, h.marks, hs.marks]
    simp [Part.marks, Nat.add_assoc]

theorem Laid.lastField {f : String × Json} (h : Laid (.field f) t) :
    Laid (.fields [f]) (t ++ (breakText level ++ ['}'])) where
  written := .lastField h.written (blanks_breakText level)
  calm := h.calm.append (calm_breakText_append level (.plain (by decide) rfl .nil))
  marks := by
    rw [markCount_append, markCount_breakText_append, h.marks]
    rfl

theorem Laid.moreFields {f : String × Json} {fs : List (String × Json)} (h : Laid (.field f) t)
    (hs : Laid (.fields fs) u) :
    Laid (.fields (f :: fs)) (t ++ ',' :: (breakText level ++ u)) where
  written := .moreFields h.written blanks_nil (blanks_breakText level) hs.written
  calm := h.calm.append (.plain (by decide) rfl (calm_breakText_append level hs.calm))
  marks := by
    rw [markCount_append, markCount_cons_of_not rfl, markCount_breakText_append, h.marks, hs.marks]
    simp [Part.marks]

theorem Laid.field {name : String} {v : Json} (h : Laid (.value v) t) :
    Laid (.field (name, v)) (stringText name ++ (':' :: ' ' :: t)) where
  written := by
    have hfield := Written.field (P := Any) (spells_flatMap_writeChar name.toList) trivial
      blanks_nil (List.forall_mem_singleton.mpr rfl : Blanks [' ']) h.written
    rw [String.ofList_toList] at hfield
    rw [stringText_eq]
    simpa using hfield
  calm := (calm_stringText name).append (.plain (by decide) rfl (.plain (by decide) rfl h.calm))
  marks := by
    rw [markCount_append, markCount_stringText, markCount_cons, markCount_cons_of_not rfl, h.marks]
    simp only [Part.marks, fieldMarks]
    exact (Nat.add_left_comm _ _ _).trans (Nat.add_comm _ _)

/-- Parts on lines of their own, up to the bracket that closes them. -/
theorem laid_rows {α : Type} {part : α → Part} {parts : List α → Part} {close : Char}
    (hlast : ∀ {x t}, Laid (part x) t → Laid (parts [x]) (t ++ (breakText level ++ [close])))
    (hmore : ∀ {x xs t u}, Laid (part x) t → Laid (parts xs) u →
      Laid (parts (x :: xs)) (t ++ ',' :: (breakText (level + 1) ++ u)))
    {text : α → List Char} {xs : List α} (hne : xs ≠ []) (h : ∀ x ∈ xs, Laid (part x) (text x)) :
    Laid (parts xs) (rowsText level close (xs.map text)) := by
  rw [rowsText]
  induction xs with
  | nil => exact absurd rfl hne
  | cons x xs ih =>
    obtain ⟨hx, hxs⟩ := List.forall_mem_cons.mp h
    cases xs with
    | nil =>
      rw [List.map_singleton, List.intercalate_singleton]
      exact hlast hx
    | cons y ys =>
      have hrest := ih (List.cons_ne_nil y ys) hxs
      rw [List.map_cons] at hrest ⊢
      rw [List.map_cons, List.intercalate_cons_cons, List.append_assoc, List.append_assoc]
      exact hmore hx hrest

end Laid

theorem write_arr (level : Nat) (xs : List Json) :
    (write onLines level (.arr xs)).toList = '[' :: if xs.isEmpty then [']']
      else breakText (level + 1) ++
        rowsText level ']' (xs.map fun x => (write onLines (level + 1) x).toList) := by
  have henclose := toList_enclose_onLines level '[' ']' (writeItems onLines (level + 1) xs)
  rw [writeItems_eq, List.isEmpty_map, List.map_map] at henclose
  rw [write, writeItems_eq]
  exact henclose

theorem write_obj (level : Nat) (fields : List (String × Json)) :
    (write onLines level (.obj fields)).toList = '{' :: if fields.isEmpty then ['}']
      else breakText (level + 1) ++ rowsText level '}' (fields.map fun f =>
        stringText f.1 ++ ':' :: ' ' :: (write onLines (level + 1) f.2).toList) := by
  have henclose := toList_enclose_onLines level '{' '}' (writeFields onLines (level + 1) fields)
  have hfields : fields.map (String.toList ∘ fun f =>
      writeString onLines.ascii f.1 ++ onLines.colon ++ write onLines (level + 1) f.2) =
        fields.map fun f =>
          stringText f.1 ++ ':' :: ' ' :: (write onLines (level + 1) f.2).toList :=
    List.map_congr_left fun f _ => by
      rw [Function.comp_apply, String.toList_append, String.toList_append, List.append_assoc]
      rfl
  rw [writeFields_eq, List.isEmpty_map, List.map_map, hfields] at henclose
  rw [write, writeFields_eq]
  exact henclose

/-- The indented text of a value writes it, is calm and has its marks. -/
theorem laid_write {v : Json} (h : Legible v) (level : Nat) :
    Laid (.value v) (write onLines level v).toList := by
  induction h generalizing level with
  | null => exact laid_atom ⟨by decide, by decide, fun _ => rfl⟩
  | bool b => cases b <;> exact laid_atom ⟨by decide, by decide, fun _ => rfl⟩
  | nat h => exact laid_atom (isAtom_nat h)
  | str s =>
    have hwritten := Written.text (P := Any) (spells_flatMap_writeChar s.toList) trivial
    rw [String.ofList_toList, ← stringText_eq] at hwritten
    exact ⟨hwritten, calm_stringText s, rfl⟩
  | @arr xs _ ih =>
    rw [write_arr]
    split
    · rename_i hempty
      rw [List.isEmpty_iff.mp hempty]
      exact ⟨.emptyList blanks_nil, .plain (by decide) rfl (.plain (by decide) rfl .nil),
        (marks_arr []).symm⟩
    · rename_i hne
      have hrows : Laid (.items xs) (rowsText level ']' _) := laid_rows Laid.lastItem
        Laid.moreItems (mt List.isEmpty_iff.mpr hne) fun x hx => ih x hx (level + 1)
      refine ⟨.list (blanks_breakText (level + 1)) hrows.written,
        .plain (by decide) rfl (calm_breakText_append _ hrows.calm), ?_⟩
      rw [markCount_cons, markCount_breakText_append, hrows.marks, Part.marks, Part.marks,
        marks_arr]
      rfl
  | @obj fields hnames _ ih =>
    rw [write_obj]
    split
    · rename_i hempty
      rw [List.isEmpty_iff.mp hempty]
      exact ⟨.emptyObject blanks_nil, .plain (by decide) rfl (.plain (by decide) rfl .nil),
        (marks_obj []).symm⟩
    · rename_i hne
      have hrows : Laid (.fields fields) (rowsText level '}' _) := laid_rows Laid.lastField
        Laid.moreFields (mt List.isEmpty_iff.mpr hne) fun f hf => (ih f hf (level + 1)).field
      have hwritten := Written.object (blanks_breakText (level + 1)) hrows.written
      rw [ofFields, Entries.ofList_of_nodup hnames] at hwritten
      refine ⟨hwritten, .plain (by decide) rfl (calm_breakText_append _ hrows.calm), ?_⟩
      rw [markCount_cons_of_not rfl, markCount_breakText_append, hrows.marks, Part.marks,
        Part.marks, marks_obj]

/-- A value is read back from its indented text. -/
theorem readList_pretty {v : Json} (h : Legible v) {b : List Char} (hb : Blanks b) :
    readList ((pretty true v).toList ++ b) = .ok v := by
  have hread := (laid_write h 0).written.readList_eq_ok blanks_nil hb
  rwa [List.nil_append] at hread

end RouteDoc.Json
