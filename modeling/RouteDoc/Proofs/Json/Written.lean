import RouteDoc.Proofs.Json.Atom
import RouteDoc.Proofs.Json.Spelled

/-!
# How values are written

The grammar that the reader follows, with the one liberty it does not take: a
comma after the last item of a list or the last field of an object.

* `Written`: a text writes a value with a number of such commas;
* `Written.reads`: the reader reads the value if there are none of them, and
  fails if there is one;
* `readList_iff`: the texts that are read.
-/

namespace RouteDoc.Json

open Text (Ends)

/-! ## The grammar -/

/-- Whether a character may stand between the parts of a text. -/
def isBlank (c : Char) : Bool := c == ' ' || c == '\t' || c == '\n' || c == '\r'

/-- A stretch of such characters. -/
def Blanks (b : List Char) : Prop := ∀ c ∈ b, isBlank c = true

/-- What a stretch of a text may write. -/
inductive Part where
  | value (v : Json)
  | field (f : String × Json)
  | items (xs : List Json)
  | fields (fs : List (String × Json))

/-- A text writes a part; items and fields go with the bracket that ends them.
So many commas follow a last item or field, and what stands between the quotes of
strings is as `P` says. -/
inductive Written (P : List Char → Prop) : Nat → Part → List Char → Prop
  | atom {v : Json} {t : List Char} (h : IsAtom v t) : Written P 0 (.value v) t
  | text {body s : List Char} (hs : Spells body s) (hbody : P body) :
      Written P 0 (.value (.str (String.ofList s))) ('"' :: (body ++ ['"']))
  | emptyList {b : List Char} (hb : Blanks b) : Written P 0 (.value (.arr [])) ('[' :: (b ++ [']']))
  | list {n : Nat} {b : List Char} {xs : List Json} {t : List Char} (hb : Blanks b)
      (h : Written P n (.items xs) t) : Written P n (.value (.arr xs)) ('[' :: (b ++ t))
  | emptyObject {b : List Char} (hb : Blanks b) :
      Written P 0 (.value (.obj [])) ('{' :: (b ++ ['}']))
  | object {n : Nat} {b : List Char} {fs : List (String × Json)} {t : List Char} (hb : Blanks b)
      (h : Written P n (.fields fs) t) : Written P n (.value (ofFields fs)) ('{' :: (b ++ t))
  | field {n : Nat} {body s b b' t : List Char} {v : Json} (hs : Spells body s) (hbody : P body)
      (hb : Blanks b) (hb' : Blanks b') (h : Written P n (.value v) t) :
      Written P n (.field (String.ofList s, v)) ('"' :: (body ++ '"' :: (b ++ ':' :: (b' ++ t))))
  | lastItem {n : Nat} {v : Json} {t b : List Char} (h : Written P n (.value v) t) (hb : Blanks b) :
      Written P n (.items [v]) (t ++ (b ++ [']']))
  | commaItem {n : Nat} {v : Json} {t b b' : List Char} (h : Written P n (.value v) t)
      (hb : Blanks b) (hb' : Blanks b') :
      Written P (n + 1) (.items [v]) (t ++ (b ++ ',' :: (b' ++ [']'])))
  | moreItems {n m : Nat} {v : Json} {t b b' ts : List Char} {xs : List Json}
      (h : Written P n (.value v) t) (hb : Blanks b) (hb' : Blanks b')
      (hs : Written P m (.items xs) ts) :
      Written P (n + m) (.items (v :: xs)) (t ++ (b ++ ',' :: (b' ++ ts)))
  | lastField {n : Nat} {f : String × Json} {t b : List Char} (h : Written P n (.field f) t)
      (hb : Blanks b) : Written P n (.fields [f]) (t ++ (b ++ ['}']))
  | commaField {n : Nat} {f : String × Json} {t b b' : List Char} (h : Written P n (.field f) t)
      (hb : Blanks b) (hb' : Blanks b') :
      Written P (n + 1) (.fields [f]) (t ++ (b ++ ',' :: (b' ++ ['}'])))
  | moreFields {n m : Nat} {f : String × Json} {t b b' ts : List Char}
      {fs : List (String × Json)} (h : Written P n (.field f) t) (hb : Blanks b) (hb' : Blanks b')
      (hs : Written P m (.fields fs) ts) :
      Written P (n + m) (.fields (f :: fs)) (t ++ (b ++ ',' :: (b' ++ ts)))

/-- Whether a part may begin with a character. -/
def isStart (c : Char) : Bool := isPlain c || c == '"' || c == '[' || c == '{'

theorem ne_of_isStart {c d : Char} (hc : isStart c = true) (hd : isStart d = false) : c ≠ d := by
  rintro rfl
  exact Bool.false_ne_true (hd.symm.trans hc)

theorem isStart_of_isBlank {c : Char} (h : isBlank c = true) : isStart c = false := by
  simp only [isBlank, Bool.or_eq_true, beq_iff_eq] at h
  rcases h with ((rfl | rfl) | rfl) | rfl <;> decide

theorem isBlank_of_isStart {c : Char} (h : isStart c = true) : isBlank c = false :=
  Bool.eq_false_iff.mpr fun hb => ne_of_isStart h (isStart_of_isBlank hb) rfl

theorem isPlain_of_isBlank {c : Char} (h : isBlank c = true) : isPlain c = false := by
  have hstart := isStart_of_isBlank h
  simp only [isStart, Bool.or_eq_false_iff] at hstart
  exact hstart.1.1.1

/-- A part begins with a character of its own. -/
theorem Written.exists_cons {P : List Char → Prop} {n : Nat} {p : Part} {t : List Char}
    (h : Written P n p t) : ∃ c cs, t = c :: cs ∧ isStart c = true := by
  induction h with
  | @atom v t h =>
    obtain ⟨c, cs, rfl⟩ := List.exists_cons_of_ne_nil h.ne_nil
    exact ⟨c, cs, rfl, by simp [isStart, h.plain c List.mem_cons_self]⟩
  | text | emptyList | list | emptyObject | object | field => exact ⟨_, _, rfl, by decide⟩
  | lastItem _ _ ih | commaItem _ _ _ ih | moreItems _ _ _ _ ih _ | lastField _ _ ih
  | commaField _ _ _ ih | moreFields _ _ _ _ ih _ =>
    obtain ⟨c, cs, rfl, hc⟩ := ih
    exact ⟨c, _, rfl, hc⟩

/-- Fields end with the brace that closes their object. -/
theorem Written.exists_append {P : List Char → Prop} {n : Nat} {p : Part} {t : List Char}
    (h : Written P n p t) {fs : List (String × Json)} (hp : p = .fields fs) :
    ∃ cs, t = cs ++ ['}'] := by
  induction h generalizing fs with
  | lastField => exact ⟨_, (List.append_assoc _ _ _).symm⟩
  | @commaField _ _ t b b' => exact ⟨t ++ (b ++ ',' :: b'), by simp⟩
  | @moreFields _ _ _ t b b' _ _ _ _ _ _ _ ih =>
    obtain ⟨cs, rfl⟩ := ih rfl
    exact ⟨t ++ (b ++ ',' :: (b' ++ cs)), by simp⟩
  | _ => cases hp

/-- An object begins and ends with its braces. -/
theorem Written.braces {P : List Char → Prop} {n : Nat} {fields : List (String × Json)}
    {t : List Char} (h : Written P n (.value (.obj fields)) t) :
    t.head? = some '{' ∧ t.getLast? = some '}' := by
  generalize hp : Part.value (.obj fields) = p at h
  cases h with
  | atom h => exact absurd (Part.value.inj hp).symm (h.ne_obj fields)
  | emptyObject => exact ⟨rfl, List.getLast?_eq_some_iff.mpr ⟨_, (List.cons_append ..).symm⟩⟩
  | @object _ b _ _ _ h =>
    obtain ⟨cs, rfl⟩ := h.exists_append rfl
    exact ⟨rfl, List.getLast?_eq_some_iff.mpr ⟨'{' :: (b ++ cs), by simp⟩⟩
  | _ => cases hp

/-- All values of a part have a property. -/
def Part.All (Q : Json → Prop) : Part → Prop
  | .value v => Q v
  | .field f => Q f.2
  | .items xs => ∀ x ∈ xs, Q x
  | .fields fs => ∀ f ∈ fs, Q f.2

/-- What is written has a property that atoms and strings have, and that lists and
objects get from their members. -/
theorem Written.all {P : List Char → Prop} {Q : Json → Prop}
    (hatom : ∀ {v t}, IsAtom v t → Q v) (htext : ∀ s, Q (.str s))
    (hlist : ∀ {xs}, (∀ x ∈ xs, Q x) → Q (.arr xs))
    (hobject : ∀ {fs : List (String × Json)}, (∀ f ∈ fs, Q f.2) → Q (ofFields fs))
    {n : Nat} {p : Part} {t : List Char} (h : Written P n p t) : p.All Q := by
  induction h with
  | atom h => exact hatom h
  | text => exact htext _
  | emptyList => exact hlist fun _ hx => nomatch hx
  | list _ _ ih => exact hlist ih
  | emptyObject => exact @hobject [] fun _ hf => nomatch hf
  | object _ _ ih => exact hobject ih
  | field _ _ _ _ _ ih => exact ih
  | lastItem _ _ ih | commaItem _ _ _ ih | lastField _ _ ih | commaField _ _ _ ih =>
    exact List.forall_mem_singleton.mpr ih
  | moreItems _ _ _ _ ih ihs | moreFields _ _ _ _ ih ihs =>
    exact List.forall_mem_cons.mpr ⟨ih, ihs⟩

/-! ## Steps of the reader -/

/-- A reading step gives `x` and leaves `rest`; with `n` not zero it fails. -/
def Gives {α : Type} (n : Nat) (result : Except ReadError (α × Rest)) (x : α) (rest : List Char) :
    Prop :=
  if n = 0 then ∃ offset, result = .ok (x, ⟨rest, offset⟩) else ∃ e, result = .error e

section Gives

variable {α β : Type} {n m : Nat} {result : Except ReadError (α × Rest)} {x : α} {y : β}
  {rest rest' : List Char} {f : α × Rest → Except ReadError (β × Rest)}

theorem gives_zero : Gives 0 result x rest ↔ ∃ offset, result = .ok (x, ⟨rest, offset⟩) :=
  iff_of_eq (if_pos rfl)

theorem gives_ok (x : α) (rest : List Char) (offset : Nat) :
    Gives 0 (.ok (x, ⟨rest, offset⟩)) x rest := gives_zero.mpr ⟨offset, rfl⟩

theorem gives_error (h : n ≠ 0) (e : ReadError) : Gives n (.error e) x rest := by
  rw [Gives, if_neg h]
  exact ⟨e, rfl⟩

/-- Two steps fail if one of them does. -/
theorem Gives.bind (h : Gives n result x rest)
    (hf : ∀ offset, Gives m (f (x, ⟨rest, offset⟩)) y rest') :
    Gives (n + m) (result >>= f) y rest' := by
  by_cases hn : n = 0
  · subst hn
    obtain ⟨offset, rfl⟩ := gives_zero.mp h
    rw [Nat.zero_add]
    exact hf offset
  · rw [Gives, if_neg hn] at h
    obtain ⟨e, rfl⟩ := h
    exact gives_error (by omega) e

end Gives

/-- Blanks are skipped. -/
theorem skipBlanks_append {b : List Char} (hb : Blanks b) {c : Char} (hc : isBlank c = false)
    (cs : List Char) (offset : Nat) :
    (Rest.mk (b ++ c :: cs) offset).skipBlanks = ⟨c :: cs, offset + b.length⟩ := by
  have htake : (b ++ c :: cs).takeWhile isBlank = b := by
    rw [List.takeWhile_append_of_pos hb, List.takeWhile_cons_of_neg (by simp [hc]), List.append_nil]
  rw [Rest.skipBlanks]
  change (Rest.mk (b ++ c :: cs) offset).drop ((b ++ c :: cs).takeWhile isBlank).length = _
  rw [htake, Rest.drop, List.drop_left]

/-- After blanks something else comes. -/
theorem exists_skipBlanks (r : Rest) :
    ∃ b, Blanks b ∧ r.chars = b ++ r.skipBlanks.chars ∧ Ends isBlank r.skipBlanks.chars := by
  have hsplit := List.takeWhile_append_dropWhile (p := isBlank) (l := r.chars)
  have hskip : r.skipBlanks.chars = r.chars.dropWhile isBlank :=
    (congrArg (List.drop (r.chars.takeWhile isBlank).length) hsplit.symm).trans List.drop_left
  refine ⟨r.chars.takeWhile isBlank, fun c hc => List.mem_takeWhile_imp hc, ?_, ?_⟩
  · rw [hskip, hsplit]
  · intro c hc
    have hnot := List.head?_dropWhile_not isBlank r.chars
    rw [← hskip, Option.mem_def.mp hc] at hnot
    exact hnot

/-! ## Items and fields -/

/-- What comes after an item or field: the closing bracket, or a comma and
another one. -/
def afterPart {α : Type} (close : Char)
    (again : Rest → List α → Except ReadError (List α × Rest)) (acc : List α) (x : α × Rest) :
    Except ReadError (List α × Rest) :=
  let r := x.2.skipBlanks
  if r.chars.head? == some close then .ok (x.1 :: acc, r.drop 1)
  else if r.chars.head? == some ',' then again (r.drop 1).skipBlanks (x.1 :: acc)
  else .error (.at .comma r.offset)

/-- What comes after a part, told by the character that is next. -/
theorem eq_afterPart {α : Type} {close : Char}
    {again : Rest → List α → Except ReadError (List α × Rest)} {acc : List α} {x : α × Rest}
    {y : Except ReadError (List α × Rest)}
    (hclose : ∀ cs offset, x.2.skipBlanks = ⟨close :: cs, offset⟩ →
      y = .ok (x.1 :: acc, ⟨cs, offset + 1⟩))
    (hcomma : ∀ cs offset, x.2.skipBlanks = ⟨',' :: cs, offset⟩ →
      y = again (Rest.mk cs (offset + 1)).skipBlanks (x.1 :: acc))
    (hother : (∀ cs, x.2.skipBlanks.chars ≠ close :: cs) →
      (∀ cs, x.2.skipBlanks.chars ≠ ',' :: cs) → y = .error (.at .comma x.2.skipBlanks.offset)) :
    y = afterPart close again acc x := by
  rw [afterPart]
  generalize x.2.skipBlanks = r at *
  split
  · rename_i h
    obtain ⟨cs, hcs⟩ := List.head?_eq_some_iff.mp (beq_iff_eq.mp h)
    obtain ⟨chars, offset⟩ := r
    obtain rfl : chars = close :: cs := hcs
    exact hclose cs offset rfl
  · rename_i hnot
    split
    · rename_i h
      obtain ⟨cs, hcs⟩ := List.head?_eq_some_iff.mp (beq_iff_eq.mp h)
      obtain ⟨chars, offset⟩ := r
      obtain rfl : chars = ',' :: cs := hcs
      exact hcomma cs offset rfl
    · rename_i hnot'
      exact hother (fun cs hcs => hnot (by rw [hcs]; exact beq_self_eq_true _))
        fun cs hcs => hnot' (by rw [hcs]; exact beq_self_eq_true _)

theorem readItems_succ (depth : Nat) (r : Rest) (acc : List Json) :
    readItems (depth + 1) r acc = readValue depth r >>= afterPart ']' (readItems depth) acc := by
  rw [readItems]
  congr 1
  funext x
  dsimp only
  refine eq_afterPart (fun cs offset h => ?_) (fun cs offset h => ?_) fun hclose hcomma => ?_
  · rw [h]
    rfl
  · rw [h]
    rfl
  · split
    · exact absurd ‹_› (hclose _)
    · exact absurd ‹_› (hcomma _)
    · rfl

/-- A field: a name, a colon and a value. -/
def readField (depth : Nat) (r : Rest) : Except ReadError ((String × Json) × Rest) :=
  if r.chars.head? != some '"' then .error (.at .propertyName r.offset)
  else do
    let (name, r) ← readString r
    let r := r.skipBlanks
    if r.chars.head? != some ':' then throw (.at .colon r.offset)
    let (value, r) ← readValue depth (r.drop 1).skipBlanks
    return ((name, value), r)

theorem readFields_succ (depth : Nat) (r : Rest) (acc : List (String × Json)) :
    readFields (depth + 1) r acc = readField depth r >>= afterPart '}' (readFields depth) acc := by
  rw [readFields, readField]
  split
  · rfl
  · rw [bind_assoc]
    congr 1
    funext x
    dsimp only
    split
    · rfl
    · rw [bind_assoc]
      congr 1
      funext y
      rw [pure_bind]
      refine eq_afterPart (fun cs offset h => ?_) (fun cs offset h => ?_) fun hclose hcomma => ?_
      · dsimp only at h ⊢
        rw [h]
        rfl
      · dsimp only at h ⊢
        rw [h]
        rfl
      · dsimp only
        split
        · exact absurd ‹_› (hclose _)
        · exact absurd ‹_› (hcomma _)
        · rfl

/-- What stands between brackets. -/
def inBrackets {α : Type} (close : Char)
    (all : Rest → List α → Except ReadError (List α × Rest)) (wrap : List α → Json) (r : Rest) :
    Except ReadError (Json × Rest) :=
  let r := r.skipBlanks
  if r.chars.head? == some close then .ok (wrap [], r.drop 1)
  else all r [] >>= fun x => .ok (wrap x.1.reverse, x.2)

theorem readValue_list (depth : Nat) (cs : List Char) (offset : Nat) :
    readValue (depth + 1) ⟨'[' :: cs, offset⟩ =
      inBrackets ']' (readItems depth) .arr ⟨cs, offset + 1⟩ := by
  rw [readValue]
  rfl

theorem readValue_object (depth : Nat) (cs : List Char) (offset : Nat) :
    readValue (depth + 1) ⟨'{' :: cs, offset⟩ =
      inBrackets '}' (readFields depth) ofFields ⟨cs, offset + 1⟩ := by
  rw [readValue]
  rfl

theorem readValue_text (depth : Nat) (cs : List Char) (offset : Nat) :
    readValue (depth + 1) ⟨'"' :: cs, offset⟩ =
      readString ⟨'"' :: cs, offset⟩ >>= fun x => .ok (.str x.1, x.2) := by
  rw [readValue]
  rfl

section AfterPart

variable {α : Type} {close : Char} {again : Rest → List α → Except ReadError (List α × Rest)}

theorem afterPart_close (hclose : isBlank close = false) {b : List Char} (hb : Blanks b)
    (acc : List α) (x : α) (rest : List Char) (offset : Nat) :
    Gives 0 (afterPart close again acc (x, ⟨b ++ close :: rest, offset⟩)) (x :: acc) rest := by
  rw [afterPart, skipBlanks_append hb hclose]
  dsimp only
  rw [if_pos (by rw [List.head?_cons]; exact beq_self_eq_true _)]
  exact gives_ok _ _ _

/-- After a comma and blanks the next part comes. -/
theorem afterPart_comma (hclose : close ≠ ',') {b b' : List Char} (hb : Blanks b) (hb' : Blanks b')
    {c : Char} (hc : isBlank c = false) (acc : List α) (x : α) (cs : List Char) (offset : Nat) :
    ∃ offset', afterPart close again acc (x, ⟨b ++ ',' :: (b' ++ c :: cs), offset⟩) =
      again ⟨c :: cs, offset'⟩ (x :: acc) := by
  refine ⟨offset + b.length + 1 + b'.length, ?_⟩
  rw [afterPart, skipBlanks_append hb (by decide)]
  dsimp only
  rw [if_neg (by simpa using hclose.symm), if_pos (by rfl), Rest.drop, List.drop_succ_cons,
    List.drop_zero, skipBlanks_append hb' hc]

/-- What comes after a part that was not the last, or was. -/
theorem exists_afterPart {acc ys : List α} {x : α × Rest} {r' : Rest}
    (h : afterPart close again acc x = .ok (ys, r')) :
    (∃ b, Blanks b ∧ x.2.chars = b ++ close :: r'.chars ∧ ys = x.1 :: acc) ∨
      ∃ b b' r, Blanks b ∧ Blanks b' ∧ x.2.chars = b ++ ',' :: (b' ++ r.chars) ∧
        again r (x.1 :: acc) = .ok (ys, r') := by
  obtain ⟨b, hb, hchars, -⟩ := exists_skipBlanks x.2
  rw [afterPart] at h
  split at h
  · rename_i hclose
    obtain ⟨cs, hcs⟩ := List.head?_eq_some_iff.mp (beq_iff_eq.mp hclose)
    obtain ⟨rfl, rfl⟩ := Prod.mk.inj (Except.ok.inj h)
    refine .inl ⟨b, hb, ?_, rfl⟩
    rw [hchars, hcs, Rest.drop, hcs]
    rfl
  · split at h
    · rename_i hcomma
      obtain ⟨cs, hcs⟩ := List.head?_eq_some_iff.mp (beq_iff_eq.mp hcomma)
      obtain ⟨b', hb', hchars', -⟩ := exists_skipBlanks (x.2.skipBlanks.drop 1)
      refine .inr ⟨b, b', _, hb, hb', ?_, h⟩
      rw [← hchars', hchars, hcs, Rest.drop, hcs]
      rfl
    · cases h

end AfterPart

/-! ## Reading what is written -/

/-- A reader of parts gives `x` for a text, or fails. -/
def ReadsOne {α : Type} (one : Nat → Rest → Except ReadError (α × Rest)) (n : Nat) (x : α)
    (t : List Char) : Prop :=
  ∀ depth offset rest, 2 * t.length ≤ depth → Ends isPlain rest →
    Gives n (one depth ⟨t ++ rest, offset⟩) x rest

/-- A reader of parts up to their closing bracket gives `xs`, or fails. -/
def ReadsAll {α : Type} (all : Nat → Rest → List α → Except ReadError (List α × Rest)) (n : Nat)
    (xs : List α) (t : List Char) : Prop :=
  ∀ depth offset rest acc, 2 * t.length ≤ depth →
    Gives n (all depth ⟨t ++ rest, offset⟩ acc) (xs.reverse ++ acc) rest

/-- The reader gives what a text writes, or fails. -/
def Reads (n : Nat) (t : List Char) : Part → Prop
  | .value v => ReadsOne readValue n v t
  | .field f => ReadsOne readField n f t
  | .items xs => ReadsAll readItems n xs t
  | .fields fs => ReadsAll readFields n fs t

/-- How a value between brackets is read: its parts one after another, and none
where the closing bracket is next. -/
structure IsRow {α : Type} (opening close : Char) (wrap : List α → Json)
    (one : Nat → Rest → Except ReadError (α × Rest))
    (all : Nat → Rest → List α → Except ReadError (List α × Rest)) : Prop where
  value : ∀ depth cs offset, readValue (depth + 1) ⟨opening :: cs, offset⟩ =
    inBrackets close (all depth) wrap ⟨cs, offset + 1⟩
  step : ∀ depth r acc, all (depth + 1) r acc = one depth r >>= afterPart close (all depth) acc
  blank : isBlank close = false
  plain : isPlain close = false
  start : isStart close = false
  comma : close ≠ ','
  none : ∀ depth cs offset acc, ∃ e, all depth ⟨close :: cs, offset⟩ acc = .error e

theorem isRow_items : IsRow '[' ']' .arr readValue readItems where
  value := readValue_list
  step := readItems_succ
  blank := by decide
  plain := by decide
  start := by decide
  comma := by decide
  none depth cs offset acc := by
    cases depth with
    | zero => exact ⟨_, rfl⟩
    | succ depth =>
      rw [readItems_succ]
      cases depth with
      | zero => exact ⟨_, rfl⟩
      | succ depth => exact ⟨.at .value offset, rfl⟩

theorem isRow_fields : IsRow '{' '}' ofFields readField readFields where
  value := readValue_object
  step := readFields_succ
  blank := by decide
  plain := by decide
  start := by decide
  comma := by decide
  none depth cs offset acc := by
    cases depth with
    | zero => exact ⟨_, rfl⟩
    | succ depth =>
      rw [readFields_succ]
      exact ⟨.at .propertyName offset, rfl⟩

section Row

variable {α : Type} {opening close : Char} {wrap : List α → Json}
  {one : Nat → Rest → Except ReadError (α × Rest)}
  {all : Nat → Rest → List α → Except ReadError (List α × Rest)} {n m : Nat} {x : α}
  {t b b' : List Char}

theorem ends_blanks (hb : Blanks b) {c : Char} (hc : isPlain c = false) (cs : List Char) :
    Ends isPlain (b ++ c :: cs) := by
  cases b with
  | nil => exact Text.ends_cons.mpr hc
  | cons d b => exact Text.ends_cons.mpr (isPlain_of_isBlank (hb d List.mem_cons_self))

theorem ReadsOne.last (h : ReadsOne one n x t) (hrow : IsRow opening close wrap one all)
    (hb : Blanks b) : ReadsAll all n [x] (t ++ (b ++ [close])) := by
  intro depth offset rest acc hdepth
  simp only [List.length_append, List.length_singleton] at hdepth
  obtain ⟨depth, rfl⟩ : ∃ d, depth = d + 1 := ⟨depth - 1, by omega⟩
  rw [hrow.step, List.append_assoc, List.append_assoc]
  exact (h depth offset _ (by omega) (ends_blanks hb hrow.plain _)).bind (m := 0)
    fun offset' => afterPart_close hrow.blank hb acc x rest offset'

theorem ReadsOne.comma (h : ReadsOne one n x t) (hrow : IsRow opening close wrap one all)
    (hb : Blanks b) (hb' : Blanks b') :
    ReadsAll all (n + 1) [x] (t ++ (b ++ ',' :: (b' ++ [close]))) := by
  intro depth offset rest acc hdepth
  simp only [List.length_append, List.length_cons] at hdepth
  obtain ⟨depth, rfl⟩ : ∃ d, depth = d + 1 := ⟨depth - 1, by omega⟩
  rw [hrow.step, List.append_assoc, List.append_assoc, List.cons_append, List.append_assoc]
  refine (h depth offset _ (by omega) (ends_blanks hb (by decide) _)).bind fun offset' => ?_
  obtain ⟨offset', hnext⟩ := afterPart_comma hrow.comma hb hb' hrow.blank acc x rest offset'
  obtain ⟨e, he⟩ := hrow.none depth rest offset' (x :: acc)
  rw [List.singleton_append, hnext, he]
  exact gives_error Nat.one_ne_zero e

theorem ReadsOne.more (h : ReadsOne one n x t) (hrow : IsRow opening close wrap one all)
    (hb : Blanks b) (hb' : Blanks b') {xs : List α} {ts : List Char} (hs : ReadsAll all m xs ts)
    (hstart : ∃ c cs, ts = c :: cs ∧ isStart c = true) :
    ReadsAll all (n + m) (x :: xs) (t ++ (b ++ ',' :: (b' ++ ts))) := by
  intro depth offset rest acc hdepth
  simp only [List.length_append, List.length_cons] at hdepth
  obtain ⟨depth, rfl⟩ : ∃ d, depth = d + 1 := ⟨depth - 1, by omega⟩
  rw [hrow.step, List.append_assoc, List.append_assoc, List.cons_append, List.append_assoc]
  refine (h depth offset _ (by omega) (ends_blanks hb (by decide) _)).bind fun offset' => ?_
  obtain ⟨c, cs, rfl, hc⟩ := hstart
  obtain ⟨offset', hnext⟩ := afterPart_comma hrow.comma hb hb' (isBlank_of_isStart hc) acc x
    (cs ++ rest) offset'
  rw [List.cons_append, hnext, ← List.cons_append, List.reverse_cons, List.append_assoc]
  exact hs depth offset' rest (x :: acc) (by omega)

theorem IsRow.reads_empty (hrow : IsRow opening close wrap one all) (hb : Blanks b) :
    ReadsOne readValue 0 (wrap []) (opening :: (b ++ [close])) := by
  intro depth offset rest hdepth _
  simp only [List.length_append, List.length_cons] at hdepth
  obtain ⟨depth, rfl⟩ : ∃ d, depth = d + 1 := ⟨depth - 1, by omega⟩
  rw [List.cons_append, hrow.value, List.append_assoc, List.singleton_append, inBrackets,
    skipBlanks_append hb hrow.blank]
  dsimp only
  rw [if_pos (by rw [List.head?_cons]; exact beq_self_eq_true _)]
  exact gives_ok _ _ _

theorem ReadsAll.enclosed {xs : List α} (h : ReadsAll all n xs t)
    (hrow : IsRow opening close wrap one all) (hb : Blanks b)
    (hstart : ∃ c cs, t = c :: cs ∧ isStart c = true) :
    ReadsOne readValue n (wrap xs) (opening :: (b ++ t)) := by
  intro depth offset rest hdepth _
  simp only [List.length_append, List.length_cons] at hdepth
  obtain ⟨depth, rfl⟩ : ∃ d, depth = d + 1 := ⟨depth - 1, by omega⟩
  obtain ⟨c, cs, rfl, hc⟩ := hstart
  rw [List.cons_append, hrow.value, List.append_assoc, List.cons_append, inBrackets,
    skipBlanks_append hb (isBlank_of_isStart hc)]
  dsimp only
  rw [if_neg (by simpa using ne_of_isStart hc hrow.start), ← List.cons_append]
  refine (h depth _ rest [] (by omega)).bind (m := 0) fun offset' => ?_
  rw [List.append_nil, List.reverse_reverse]
  exact gives_ok _ _ _

end Row

theorem readString_spelled {body s : List Char} (h : Spells body s) (offset : Nat)
    (rest : List Char) : ∃ offset', readString ⟨'"' :: (body ++ '"' :: rest), offset⟩ =
      .ok (String.ofList s, ⟨rest, offset'⟩) := by
  obtain ⟨offset', hread⟩ := readChars_spelled h offset (offset + 1) [] rest
  refine ⟨offset', ?_⟩
  rw [readString]
  dsimp only
  rw [List.drop_succ_cons, List.drop_zero, hread]
  rfl

theorem readField_of_name {depth offset offset' : Nat} {cs cs' : List Char} {name : String}
    {r : Rest} (hname : readString ⟨'"' :: cs, offset⟩ = .ok (name, r))
    (hcolon : r.skipBlanks = ⟨':' :: cs', offset'⟩) :
    readField depth ⟨'"' :: cs, offset⟩ =
      readValue depth (Rest.mk cs' (offset' + 1)).skipBlanks >>= fun x =>
        .ok ((name, x.1), x.2) := by
  rw [readField, if_neg (by simp), hname]
  dsimp only [bind, Except.bind]
  rw [hcolon]
  rfl

theorem ReadsOne.field {n : Nat} {v : Json} {t body s b b' : List Char}
    (h : ReadsOne readValue n v t) (hs : Spells body s) (hb : Blanks b) (hb' : Blanks b')
    (hstart : ∃ c cs, t = c :: cs ∧ isStart c = true) :
    ReadsOne readField n (String.ofList s, v)
      ('"' :: (body ++ '"' :: (b ++ ':' :: (b' ++ t)))) := by
  intro depth offset rest hdepth hrest
  simp only [List.length_append, List.length_cons] at hdepth
  obtain ⟨c, cs, rfl, hc⟩ := hstart
  obtain ⟨offset', hname⟩ := readString_spelled hs offset (b ++ ':' :: (b' ++ (c :: cs ++ rest)))
  simp only [List.cons_append, List.append_assoc] at hname ⊢
  rw [readField_of_name hname (skipBlanks_append hb (by decide) _ _),
    skipBlanks_append hb' (isBlank_of_isStart hc), ← List.cons_append]
  exact (h depth _ rest (by simp only [List.length_cons] at hdepth ⊢; omega) hrest).bind (m := 0)
    fun offset' => gives_ok _ _ _

theorem reads_text {body s : List Char} (hs : Spells body s) :
    ReadsOne readValue 0 (.str (String.ofList s)) ('"' :: (body ++ ['"'])) := by
  intro depth offset rest hdepth _
  simp only [List.length_append, List.length_cons] at hdepth
  obtain ⟨depth, rfl⟩ : ∃ d, depth = d + 1 := ⟨depth - 1, by omega⟩
  obtain ⟨offset', hread⟩ := readString_spelled hs offset rest
  rw [List.cons_append, List.append_assoc, List.singleton_append, readValue_text, hread]
  exact gives_ok _ _ _

/-- What is written without a comma too many is read, and what is written with
one is not. -/
theorem Written.reads {P : List Char → Prop} {n : Nat} {p : Part} {t : List Char}
    (h : Written P n p t) : Reads n t p := by
  induction h with
  | atom h =>
    intro depth offset rest hdepth hrest
    have hpos := List.length_pos_iff.mpr h.ne_nil
    obtain ⟨depth, rfl⟩ : ∃ d, depth = d + 1 := ⟨depth - 1, by omega⟩
    rw [h.readValue hrest]
    exact gives_ok _ _ _
  | text hs _ => exact reads_text hs
  | emptyList hb => exact isRow_items.reads_empty hb
  | list hb h ih => exact ReadsAll.enclosed ih isRow_items hb h.exists_cons
  | emptyObject hb => exact isRow_fields.reads_empty hb
  | object hb h ih => exact ReadsAll.enclosed ih isRow_fields hb h.exists_cons
  | field hs _ hb hb' h ih => exact ReadsOne.field ih hs hb hb' h.exists_cons
  | lastItem _ hb ih => exact ReadsOne.last ih isRow_items hb
  | commaItem _ hb hb' ih => exact ReadsOne.comma ih isRow_items hb hb'
  | moreItems _ hb hb' hs ih ihs => exact ReadsOne.more ih isRow_items hb hb' ihs hs.exists_cons
  | lastField _ hb ih => exact ReadsOne.last ih isRow_fields hb
  | commaField _ hb hb' ih => exact ReadsOne.comma ih isRow_fields hb hb'
  | moreFields _ hb hb' hs ih ihs => exact ReadsOne.more ih isRow_fields hb hb' ihs hs.exists_cons

/-! ## Whole texts -/

theorem readList_eq {text : List Char} (h : text.head? ≠ some '\uFEFF') : readList text =
    readValue (2 * text.length + 2) (Rest.mk text 0).skipBlanks >>= fun x =>
      if x.2.skipBlanks.chars.isEmpty then .ok x.1
      else .error (.at .extraData x.2.skipBlanks.offset) := by
  rw [readList, if_neg (by simpa using h)]
  rfl

theorem skipBlanks_blanks {b : List Char} (hb : Blanks b) (offset : Nat) :
    (Rest.mk b offset).skipBlanks.chars = [] := by
  obtain ⟨b', -, hchars, hends⟩ := exists_skipBlanks ⟨b, offset⟩
  cases h : (Rest.mk b offset).skipBlanks.chars with
  | nil => rfl
  | cons c cs =>
    rw [h] at hchars hends
    have hc : isBlank c = true := hb c (by rw [show b = b' ++ c :: cs from hchars]; simp)
    exact absurd hc (Bool.eq_false_iff.mp (Text.ends_cons.mp hends))

theorem readList_of_start {b : List Char} (hb : Blanks b) {c : Char} (hc : isStart c = true)
    (cs : List Char) : readList (b ++ c :: cs) =
      readValue (2 * (b ++ c :: cs).length + 2) ⟨c :: cs, 0 + b.length⟩ >>= fun x =>
        if x.2.skipBlanks.chars.isEmpty then .ok x.1
        else .error (.at .extraData x.2.skipBlanks.offset) := by
  rw [readList_eq, skipBlanks_append hb (isBlank_of_isStart hc)]
  cases b with
  | nil => exact fun h => ne_of_isStart hc (by decide) (Option.some.inj h)
  | cons d b =>
    intro h
    have hd := hb d List.mem_cons_self
    rw [Option.some.inj h] at hd
    exact absurd hd (by decide)

section Whole

variable {P : List Char → Prop} {n : Nat} {v : Json} {t b b' : List Char}

theorem Written.gives (h : Written P n (.value v) t) (b : List Char) (hb' : Blanks b')
    (offset : Nat) :
    Gives n (readValue (2 * (b ++ (t ++ b')).length + 2) ⟨t ++ b', offset⟩) v b' := by
  have hends : Ends isPlain b' := by
    cases b' with
    | nil => exact Text.ends_nil
    | cons c b' => exact Text.ends_cons.mpr (isPlain_of_isBlank (hb' c List.mem_cons_self))
  refine h.reads _ _ b' ?_ hends
  simp only [List.length_append]
  omega

/-- A value that is written without a comma too many is read. -/
theorem Written.readList_eq_ok (h : Written P 0 (.value v) t) (hb : Blanks b) (hb' : Blanks b') :
    readList (b ++ t ++ b') = .ok v := by
  obtain ⟨offset, hread⟩ := gives_zero.mp (h.gives b hb' (0 + b.length))
  obtain ⟨c, cs, rfl, hc⟩ := h.exists_cons
  rw [List.append_assoc, List.cons_append, readList_of_start hb hc, ← List.cons_append, hread]
  change (if (Rest.mk b' offset).skipBlanks.chars.isEmpty then _ else _) = _
  rw [skipBlanks_blanks hb']
  rfl

/-- A value that is written with a comma too many is not read. -/
theorem Written.readList_eq_error (h : Written P n (.value v) t) (hn : n ≠ 0) (hb : Blanks b)
    (hb' : Blanks b') : ∃ e, readList (b ++ t ++ b') = .error e := by
  have hread := h.gives b hb' (0 + b.length)
  rw [Gives, if_neg hn] at hread
  obtain ⟨e, he⟩ := hread
  obtain ⟨c, cs, rfl, hc⟩ := h.exists_cons
  refine ⟨e, ?_⟩
  rw [List.append_assoc, List.cons_append, readList_of_start hb hc, ← List.cons_append, he]
  rfl

theorem blanks_nil : Blanks [] := fun _ hc => nomatch hc

theorem Written.readList_alone (h : Written P 0 (.value v) t) : readList t = .ok v := by
  have hread := h.readList_eq_ok blanks_nil blanks_nil
  rwa [List.nil_append, List.append_nil] at hread

theorem Written.not_readList_alone (h : Written P n (.value v) t) (hn : n ≠ 0) :
    ∃ e, readList t = .error e := by
  have hread := h.readList_eq_error hn blanks_nil blanks_nil
  rwa [List.nil_append, List.append_nil] at hread

/-- An object with one field, closely written but for blanks after the colon. -/
theorem Written.singleton {body s : List Char} (hs : Spells body s) (hbody : P body)
    (hb : Blanks b) (h : Written P n (.value v) t) :
    Written P n (.value (.obj [(String.ofList s, v)]))
      ('{' :: '"' :: (body ++ '"' :: ':' :: (b ++ t)) ++ ['}']) :=
  .object blanks_nil (.lastField (.field hs hbody blanks_nil hb h) blanks_nil)

end Whole

/-! ## What is read is written -/

/-- Of strings nothing is asked. -/
def Any (_ : List Char) : Prop := True

/-- A stretch up to what remains is a part without a comma too many. -/
def Consumes (p : Part) (r r' : Rest) : Prop :=
  ∃ t, r.chars = t ++ r'.chars ∧ Written Any 0 p t

theorem bind_eq_ok {α β : Type} {result : Except ReadError α} {f : α → Except ReadError β} {y : β}
    (h : result >>= f = .ok y) : ∃ x, result = .ok x ∧ f x = .ok y := by
  cases result with
  | error e => cases h
  | ok x => exact ⟨x, rfl, h⟩

theorem exists_string {r r' : Rest} {name : String} (hquote : r.chars.head? = some '"')
    (h : readString r = .ok (name, r')) :
    ∃ body s, r.chars = '"' :: (body ++ '"' :: r'.chars) ∧ name = String.ofList s ∧
      Spells body s := by
  obtain ⟨cs, hcs⟩ := List.head?_eq_some_iff.mp hquote
  rw [readString] at h
  obtain ⟨⟨s, r₁⟩, hchars, hname⟩ := bind_eq_ok h
  obtain ⟨rfl, rfl⟩ := Prod.mk.inj (Except.ok.inj hname)
  obtain ⟨body, _, hbody, rfl, hspells⟩ := exists_spelled hchars
  rw [hcs] at hbody ⊢
  exact ⟨body, s, congrArg _ hbody, rfl, hspells⟩

/-- A field is read as it is written. -/
theorem consumes_field {depth : Nat} {r r' : Rest} {f : String × Json}
    (hvalue : ∀ {r r' v}, readValue depth r = .ok (v, r') → Ends isPlain r'.chars →
      Consumes (.value v) r r')
    (h : readField depth r = .ok (f, r')) (hends : Ends isPlain r'.chars) :
    Consumes (.field f) r r' := by
  rw [readField] at h
  split at h
  · cases h
  · rename_i hquote
    obtain ⟨⟨name, r₁⟩, hname, h⟩ := bind_eq_ok h
    obtain ⟨body, s, hr, rfl, hspells⟩ := exists_string (by simpa using hquote) hname
    dsimp only at h
    split at h
    · cases h
    · rename_i hcolon
      obtain ⟨⟨v, r₂⟩, hread, h⟩ := bind_eq_ok h
      obtain ⟨rfl, rfl⟩ := Prod.mk.inj (Except.ok.inj h)
      obtain ⟨t, ht, hwritten⟩ := hvalue hread hends
      obtain ⟨b, hb, hr₁, -⟩ := exists_skipBlanks r₁
      obtain ⟨cs, hcs⟩ := List.head?_eq_some_iff.mp
        (show r₁.skipBlanks.chars.head? = some ':' by simpa using hcolon)
      obtain ⟨b', hb', hr₂, -⟩ := exists_skipBlanks (r₁.skipBlanks.drop 1)
      refine ⟨_, ?_, .field hspells trivial hb hb' hwritten⟩
      have hdrop : (r₁.skipBlanks.drop 1).chars = cs := by
        rw [Rest.drop, hcs]
        rfl
      rw [hdrop] at hr₂
      rw [hr, hr₁, hcs, hr₂, ht]
      simp only [List.cons_append, List.append_assoc]

section Consumes

variable {α : Type} {opening close : Char} {wrap : List α → Json}
  {one : Nat → Rest → Except ReadError (α × Rest)}
  {all : Nat → Rest → List α → Except ReadError (List α × Rest)} {part : α → Part}
  {parts : List α → Part} {depth : Nat}

/-- Parts up to a bracket are read as they are written, if one of them is. -/
theorem IsRow.consumes (hrow : IsRow opening close wrap one all)
    (hlast : ∀ {x t b}, Written Any 0 (part x) t → Blanks b →
      Written Any 0 (parts [x]) (t ++ (b ++ [close])))
    (hmore : ∀ {x t b b' xs ts}, Written Any 0 (part x) t → Blanks b → Blanks b' →
      Written Any 0 (parts xs) ts → Written Any 0 (parts (x :: xs)) (t ++ (b ++ ',' :: (b' ++ ts))))
    (hone : ∀ {r r' x}, one depth r = .ok (x, r') → Ends isPlain r'.chars →
      Consumes (part x) r r')
    (hall : ∀ {r r' acc ys}, all depth r acc = .ok (ys, r') →
      ∃ xs, ys = xs.reverse ++ acc ∧ Consumes (parts xs) r r')
    {r r' : Rest} {acc ys : List α} (h : all (depth + 1) r acc = .ok (ys, r')) :
    ∃ xs, ys = xs.reverse ++ acc ∧ Consumes (parts xs) r r' := by
  rw [hrow.step] at h
  obtain ⟨⟨x, r₁⟩, hread, h⟩ := bind_eq_ok h
  obtain ⟨b, hb, hr₁, rfl⟩ | ⟨b, b', r₂, hb, hb', hr₁, h⟩ := exists_afterPart h
  · obtain ⟨t, ht, hwritten⟩ := hone hread (hr₁ ▸ ends_blanks hb hrow.plain _)
    refine ⟨[x], rfl, _, ?_, hlast hwritten hb⟩
    rw [ht, hr₁, List.append_assoc, List.append_assoc]
    rfl
  · obtain ⟨t, ht, hwritten⟩ := hone hread (hr₁ ▸ ends_blanks hb (by decide) _)
    obtain ⟨xs, rfl, ts, hts, hwrittens⟩ := hall h
    refine ⟨x :: xs, ?_, _, ?_, hmore hwritten hb hb' hwrittens⟩
    · rw [List.reverse_cons, List.append_assoc, List.singleton_append]
    · rw [ht, hr₁, hts]
      simp only [List.cons_append, List.append_assoc]

/-- A value between brackets is read as it is written, if its parts are. -/
theorem IsRow.consumes_enclosed (hrow : IsRow opening close wrap one all)
    (hempty : ∀ {b}, Blanks b → Written Any 0 (.value (wrap [])) (opening :: (b ++ [close])))
    (henclosed : ∀ {b xs t}, Blanks b → Written Any 0 (parts xs) t →
      Written Any 0 (.value (wrap xs)) (opening :: (b ++ t)))
    (hall : ∀ {r r' acc ys}, all depth r acc = .ok (ys, r') →
      ∃ xs, ys = xs.reverse ++ acc ∧ Consumes (parts xs) r r')
    {r r' : Rest} {v : Json} (hr : r.chars.head? = some opening)
    (h : readValue (depth + 1) r = .ok (v, r')) : Consumes (.value v) r r' := by
  obtain ⟨chars, offset⟩ := r
  obtain ⟨cs, rfl⟩ := List.head?_eq_some_iff.mp hr
  obtain ⟨b, hb, hcs, -⟩ := exists_skipBlanks ⟨cs, offset + 1⟩
  rw [hrow.value, inBrackets] at h
  generalize (Rest.mk cs (offset + 1)).skipBlanks = r at *
  obtain rfl : cs = b ++ r.chars := hcs
  split at h
  · rename_i hclose
    obtain ⟨rest, hrest⟩ := List.head?_eq_some_iff.mp (beq_iff_eq.mp hclose)
    obtain ⟨rfl, rfl⟩ := Prod.mk.inj (Except.ok.inj h)
    refine ⟨_, ?_, hempty hb⟩
    rw [Rest.drop, hrest, List.cons_append, List.append_assoc]
    rfl
  · obtain ⟨⟨ys, r₁⟩, hread, h⟩ := bind_eq_ok h
    obtain ⟨rfl, rfl⟩ := Prod.mk.inj (Except.ok.inj h)
    obtain ⟨xs, rfl, t, ht, hwritten⟩ := hall hread
    refine ⟨opening :: (b ++ t), ?_, ?_⟩
    · rw [ht, List.cons_append, List.append_assoc]
    · rw [List.append_nil, List.reverse_reverse]
      exact henclosed hb hwritten

end Consumes

theorem consumes_text {depth : Nat} {r r' : Rest} {v : Json} (hr : r.chars.head? = some '"')
    (h : readValue (depth + 1) r = .ok (v, r')) : Consumes (.value v) r r' := by
  obtain ⟨chars, offset⟩ := r
  obtain ⟨cs, rfl⟩ := List.head?_eq_some_iff.mp hr
  rw [readValue_text] at h
  obtain ⟨⟨s, r₁⟩, hread, h⟩ := bind_eq_ok h
  obtain ⟨rfl, rfl⟩ := Prod.mk.inj (Except.ok.inj h)
  obtain ⟨body, s, hr, rfl, hspells⟩ := exists_string rfl hread
  refine ⟨_, ?_, .text hspells trivial⟩
  rw [hr, List.cons_append, List.append_assoc]
  rfl

theorem consumes_value {depth : Nat} {r r' : Rest} {v : Json}
    (hitems : ∀ {r r' acc ys}, readItems depth r acc = .ok (ys, r') →
      ∃ xs, ys = xs.reverse ++ acc ∧ Consumes (.items xs) r r')
    (hfields : ∀ {r r' acc ys}, readFields depth r acc = .ok (ys, r') →
      ∃ fs, ys = fs.reverse ++ acc ∧ Consumes (.fields fs) r r')
    (h : readValue (depth + 1) r = .ok (v, r')) (hends : Ends isPlain r'.chars) :
    Consumes (.value v) r r' := by
  by_cases hstart : ∀ c ∈ r.chars.head?, c ∉ ['"', '{', '[']
  · obtain ⟨t, ht, hatom⟩ := exists_atom h hstart hends
    exact ⟨t, ht, .atom hatom⟩
  · push Not at hstart
    obtain ⟨c, hc, hmem⟩ := hstart
    simp only [List.mem_cons, List.not_mem_nil, or_false] at hmem
    obtain rfl | rfl | rfl := hmem
    · exact consumes_text hc h
    · exact isRow_fields.consumes_enclosed .emptyObject .object hfields hc h
    · exact isRow_items.consumes_enclosed .emptyList .list hitems hc h

/-- What is read is what is written. -/
theorem consumes (depth : Nat) :
    (∀ {r r' v}, readValue depth r = .ok (v, r') → Ends isPlain r'.chars →
      Consumes (.value v) r r') ∧
    (∀ {r r' acc ys}, readItems depth r acc = .ok (ys, r') →
      ∃ xs, ys = xs.reverse ++ acc ∧ Consumes (.items xs) r r') ∧
    (∀ {r r' acc ys}, readFields depth r acc = .ok (ys, r') →
      ∃ fs, ys = fs.reverse ++ acc ∧ Consumes (.fields fs) r r') := by
  induction depth with
  | zero => refine ⟨fun h => ?_, fun h => ?_, fun h => ?_⟩ <;> cases h
  | succ depth ih =>
    obtain ⟨hvalue, hitems, hfields⟩ := ih
    refine ⟨fun h => consumes_value hitems hfields h, fun h => ?_, fun h => ?_⟩
    · exact isRow_items.consumes .lastItem .moreItems hvalue hitems h
    · exact isRow_fields.consumes .lastField .moreFields (consumes_field hvalue) hfields h

/-- A text that is read is a value, written without a comma too many, between
blanks. -/
theorem exists_written {text : List Char} {v : Json} (h : readList text = .ok v) :
    ∃ b t b', text = b ++ t ++ b' ∧ Blanks b ∧ Blanks b' ∧ Written Any 0 (.value v) t := by
  have hmark : text.head? ≠ some '\uFEFF' := by
    intro hmark
    rw [readList, if_pos (beq_iff_eq.mpr hmark)] at h
    cases h
  rw [readList_eq hmark] at h
  obtain ⟨⟨v, r⟩, hread, h⟩ := bind_eq_ok h
  obtain ⟨b, hb, htext, -⟩ := exists_skipBlanks ⟨text, 0⟩
  obtain ⟨b', hb', hr, -⟩ := exists_skipBlanks r
  dsimp only at h
  split at h
  · rename_i hend
    obtain rfl := Except.ok.inj h
    rw [List.isEmpty_iff.mp hend, List.append_nil] at hr
    have hends : Ends isPlain r.chars := by
      rw [hr]
      cases b' with
      | nil => exact Text.ends_nil
      | cons c b' => exact Text.ends_cons.mpr (isPlain_of_isBlank (hb' c List.mem_cons_self))
    obtain ⟨t, ht, hwritten⟩ := (consumes _).1 hread hends
    refine ⟨b, t, b', ?_, hb, hb', hwritten⟩
    rw [List.append_assoc, ← hr, ← ht]
    exact htext
  · cases h

/-- A text is read if it is written, and as it is written. -/
theorem readList_iff {text : List Char} {v : Json} : readList text = .ok v ↔
    ∃ b t b', text = b ++ t ++ b' ∧ Blanks b ∧ Blanks b' ∧ Written Any 0 (.value v) t := by
  constructor
  · exact exists_written
  · rintro ⟨b, t, b', rfl, hb, hb', h⟩
    exact h.readList_eq_ok hb hb'

end RouteDoc.Json
