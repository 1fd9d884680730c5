import Mathlib.Data.List.SplitBy
import RouteDoc.Console.Wrap
import RouteDoc.Proofs.Json.Marks
import RouteDoc.Proofs.Text.Rows
import RouteDoc.Proofs.Text.Trimmed

/-!
# What a console does to long lines

A text whose lines fit stays as it is. Of others blanks are lost at line breaks, and wide
characters that are alone in their rows; no marks are won.

* `Fits`: texts whose lines fit;
* `wrap_eq_self`: they stay as they are;
* `Folded`: what becomes of a text;
* `Folded.standsFor`: the text stands for the marks that are left, or more;
* `folded_wrap`: lines of any length are folded.
-/

namespace RouteDoc.Console

open Json (StandsFor Tallies hexValue_ne_none standsFor_self)
open Text (fed fed_cons isSpace trimEnd)

/-! ## Widths -/

theorem textWidth_eq (cs : List Char) : textWidth cs = (cs.map charWidth).sum := by
  rw [textWidth, List.sum_eq_foldl, List.foldl_map]

theorem textWidth_cons (c : Char) (cs : List Char) :
    textWidth (c :: cs) = charWidth c + textWidth cs := by
  rw [textWidth_eq, textWidth_eq, List.map_cons, List.sum_cons]

theorem textWidth_singleton (c : Char) : textWidth [c] = charWidth c := by
  rw [textWidth_eq, List.map_singleton, List.sum_singleton]

theorem textWidth_append (cs ds : List Char) :
    textWidth (cs ++ ds) = textWidth cs + textWidth ds := by
  rw [textWidth_eq, textWidth_eq, textWidth_eq, List.map_append, List.sum_append]

theorem textWidth_le_of_start {cs ds : List Char} (h : cs <+: ds) :
    textWidth cs ≤ textWidth ds := by
  obtain ⟨more, rfl⟩ := h
  rw [textWidth_append]
  exact Nat.le_add_right _ _

theorem wideRanges_spec : ∀ r ∈ wideRanges.toList, 0x80 ≤ r.1 := by decide +kernel

/-- Characters of ASCII take one cell, or none. -/
theorem charWidth_le_one {c : Char} (h : c.toNat < 0x80) : charWidth c ≤ 1 := by
  have hnarrow : Text.inRanges wideRanges c.toNat = false := by
    rw [Text.inRanges, ← Array.any_toList, List.any_eq_false]
    intro r hr hin
    have hlow : r.1 ≤ c.toNat := of_decide_eq_true ((Bool.and_eq_true _ _).mp hin).1
    exact absurd (hlow.trans_lt h) (Nat.not_lt.mpr (wideRanges_spec r hr))
  rw [charWidth, hnarrow]
  split <;> decide

theorem textWidth_le_length {cs : List Char} (h : ∀ c ∈ cs, c.toNat < 0x80) :
    textWidth cs ≤ cs.length := by
  induction cs with
  | nil => exact Nat.le_refl _
  | cons c cs ih =>
    obtain ⟨hc, hcs⟩ := List.forall_mem_cons.mp h
    have hone := charWidth_le_one hc
    have hrest := ih hcs
    rw [textWidth_cons, List.length_cons]
    omega

/-! ## Lines that fit -/

theorem flatten_words (cs : List Char) : (words cs).flatten = cs := by
  have hwords := List.flatten_splitBy sameWord (Text.trimStart cs)
  rw [words]
  split
  · rename_i word more heq
    rw [heq, List.flatten_cons] at hwords
    rw [List.flatten_cons, List.append_assoc, hwords]
    exact List.takeWhile_append_dropWhile
  · exact List.append_nil cs

theorem textWidth_trimEnd_le (cs : List Char) : textWidth (trimEnd cs) ≤ textWidth cs :=
  textWidth_le_of_start (Text.dropEndWhile_prefix _ _)

/-- Words that fit into one row are set into it. -/
theorem fill_of_le {width : Nat} {ws : List (List Char)} {row : List Char}
    (h : textWidth (row ++ ws.flatten) ≤ width) : fill width row ws = [row ++ ws.flatten] := by
  induction ws generalizing row with
  | nil => rw [fill, List.flatten_nil, List.append_nil]
  | cons word more ih =>
    rw [List.flatten_cons, ← List.append_assoc] at h ⊢
    have hfits : textWidth row + textWidth (trimEnd word) ≤ width := by
      have htrim := textWidth_trimEnd_le word
      rw [textWidth_append, textWidth_append] at h
      omega
    rw [fill]
    dsimp only
    rw [if_pos hfits, ih h]

theorem shorten_of_le {width : Nat} {row : List Char} (h : row.length ≤ width) :
    shorten width row = row :=
  List.take_of_length_le (h.trans (Nat.le_max_left _ _))

theorem crop_of_le {room : Nat} {row : List Char} (h : textWidth row ≤ room) :
    crop room row = row := by
  induction row generalizing room with
  | nil => rfl
  | cons c cs ih =>
    rw [textWidth_cons] at h
    rw [crop, if_pos (by omega), ih (by omega)]

theorem wrapLine_of_le {width : Nat} {cs : List Char} (hwidth : textWidth cs ≤ width)
    (hlength : cs.length ≤ width) : wrapLine width cs = [cs] := by
  have hfill : fill width [] (words cs) = [cs] := by
    have hrow : [] ++ (words cs).flatten = cs := flatten_words cs
    rw [fill_of_le (hrow.symm ▸ hwidth), hrow]
  rw [wrapLine, hfill, List.map_singleton, shorten_of_le hlength, crop_of_le hwidth]

/-- There is a cell, and no line is wider than a row or has more characters than that has
cells. -/
structure Fits (width : Nat) (cs : List Char) : Prop where
  pos : 0 < width
  width_le : ∀ row ∈ Text.splitOnP (· == '\n') cs, textWidth row ≤ width
  length_le : ∀ row ∈ Text.splitOnP (· == '\n') cs, row.length ≤ width

/-- In ASCII only the numbers of characters matter. -/
theorem fits_of_ascii {width : Nat} {cs : List Char} (hwidth : 0 < width)
    (hcs : ∀ c ∈ cs, c.toNat < 0x80)
    (hrows : ∀ row ∈ Text.splitOnP (· == '\n') cs, row.length ≤ width) : Fits width cs where
  pos := hwidth
  width_le row hrow := by
    refine (textWidth_le_length fun c hc => ?_).trans (hrows row hrow)
    have hmem : c ∈ cs ++ ['\n'] := by
      rw [← Text.fed_splitOnP, Text.mem_fed]
      exact ⟨row, hrow, .inl hc⟩
    rcases List.mem_append.mp hmem with hcs' | hfeed
    · exact hcs c hcs'
    · rw [List.mem_singleton.mp hfeed]
      decide
  length_le := hrows

/-- A text whose lines fit stays as it is. -/
theorem wrap_eq_self {width : Nat} {cs : List Char} (h : Fits width cs) :
    wrap width cs = cs ++ ['\n'] := by
  have hrows : (Text.splitOnP (· == '\n') cs).flatMap (wrapLine width) =
      Text.splitOnP (· == '\n') cs := by
    rw [List.flatMap_congr fun row hrow => wrapLine_of_le (h.width_le row hrow)
      (h.length_le row hrow)]
    exact List.flatMap_singleton' _
  rw [wrap, hrows]
  exact Text.fed_splitOnP cs

/-! ## Rows of lines that do not fit -/

/-- A text of which all finds room but an end without backslashes. -/
def Roomy (width : Nat) (cs : List Char) : Prop :=
  ∃ front back, cs = front ++ back ∧ textWidth front ≤ width ∧ '\\' ∉ back

section Broken

variable {width : Nat}

theorem not_slash_of_isSpace {cs : List Char} (h : ∀ c ∈ cs, isSpace c = true) : '\\' ∉ cs :=
  fun hmem => absurd (h _ hmem) (by decide)

theorem Roomy.of_start {cs ds : List Char} (h : Roomy width ds) (hcs : cs <+: ds) :
    Roomy width cs := by
  obtain ⟨front, back, rfl, hfront, hback⟩ := h
  obtain ⟨rest, hrest⟩ := hcs
  rcases List.append_eq_append_iff.mp hrest with ⟨more, rfl, -⟩ | ⟨more, rfl, rfl⟩
  · refine ⟨cs, [], (List.append_nil cs).symm, ?_, nofun⟩
    exact (textWidth_le_of_start (List.prefix_append _ _)).trans hfront
  · exact ⟨front, more, rfl, hfront, fun hmem => hback (List.mem_append_left _ hmem)⟩

/-- Only the blanks behind a row need no room. -/
theorem roomy_append {row word : List Char}
    (h : textWidth row + textWidth (trimEnd word) ≤ width) : Roomy width (row ++ word) := by
  obtain ⟨blanks, hword, hblanks⟩ := Text.exists_dropEndWhile isSpace word
  refine ⟨row ++ trimEnd word, blanks, ?_, ?_, not_slash_of_isSpace hblanks⟩
  · rw [List.append_assoc]
    exact congrArg _ hword
  · rwa [textWidth_append]

theorem charWidth_slash : charWidth '\\' ≤ 1 := charWidth_le_one (by decide)

theorem flatten_chopFrom (width : Nat) (piece cs : List Char) :
    (chopFrom width piece cs).flatten = piece ++ cs := by
  induction cs generalizing piece with
  | nil => simp [chopFrom]
  | cons c cs ih =>
    rw [chopFrom]
    split
    · rw [ih, List.append_assoc]
      rfl
    · rw [List.flatten_cons, ih]
      rfl

/-- A piece is as wide as a row, or one character that is wider. -/
theorem roomy_of_mem_chopFrom (hwidth : 0 < width) {piece cs : List Char}
    (h : Roomy width piece) : ∀ row ∈ chopFrom width piece cs, Roomy width row := by
  induction cs generalizing piece with
  | nil => exact List.forall_mem_singleton.mpr h
  | cons c cs ih =>
    rw [chopFrom]
    split
    · rename_i hfits
      refine ih ⟨piece ++ [c], [], (List.append_nil _).symm, ?_, nofun⟩
      rwa [textWidth_append, textWidth_singleton]
    · refine List.forall_mem_cons.mpr ⟨h, ih ?_⟩
      by_cases hc : charWidth c ≤ width
      · exact ⟨[c], [], rfl, by rwa [textWidth_singleton], nofun⟩
      · refine ⟨[], [c], rfl, Nat.zero_le _, fun hmem => ?_⟩
        rw [← List.mem_singleton.mp hmem] at hc
        exact hc (charWidth_slash.trans hwidth)

/-- Rows that a line is broken into. -/
structure Broken (width : Nat) (cs : List Char) (rows : List (List Char)) : Prop where
  ne : rows ≠ []
  flatten : rows.flatten = cs
  roomy : ∀ row ∈ rows, Roomy width row

theorem Broken.append {cs : List Char} {front rows : List (List Char)}
    (h : Broken width cs rows) (hfront : ∀ row ∈ front, Roomy width row) :
    Broken width (front.flatten ++ cs) (front ++ rows) where
  ne hnil := h.ne (List.append_eq_nil_iff.mp hnil).2
  flatten := by rw [List.flatten_append, h.flatten]
  roomy row hrow := (List.mem_append.mp hrow).elim (hfront row) (h.roomy row)

theorem flatten_dropWhile_isEmpty (rows : List (List Char)) :
    (rows.dropWhile List.isEmpty).flatten = rows.flatten := by
  induction rows with
  | nil => rfl
  | cons row rows ih =>
    cases row with
    | nil => rwa [List.dropWhile_cons_of_pos rfl]
    | cons c cs => rw [List.dropWhile_cons_of_neg (by simp)]

/-- A word that is wider than a row is broken after the row begun, but no row is left
empty before it. -/
theorem broken_chop (hwidth : 0 < width) {row word : List Char}
    (h : Roomy width row) (hword : word ≠ []) :
    Broken width (row ++ word) ((row :: chop width word).dropWhile List.isEmpty) := by
  have hflatten : ((row :: chop width word).dropWhile List.isEmpty).flatten = row ++ word := by
    rw [flatten_dropWhile_isEmpty, List.flatten_cons, chop, flatten_chopFrom]
    rfl
  refine ⟨fun hnil => ?_, hflatten, fun part hpart => ?_⟩
  · rw [hnil] at hflatten
    exact hword (List.append_eq_nil_iff.mp hflatten.symm).2
  · rcases List.mem_cons.mp ((List.dropWhile_suffix _).subset hpart) with rfl | hpart
    · exact h
    · exact roomy_of_mem_chopFrom hwidth ⟨[], [], rfl, Nat.zero_le _, nofun⟩ part hpart

/-- Words are set into rows that find room, after a row that does. -/
theorem broken_fill (hwidth : 0 < width) {row : List Char} {ws : List (List Char)}
    (h : Roomy width row) : Broken width (row ++ ws.flatten) (fill width row ws) := by
  induction ws generalizing row with
  | nil =>
    rw [fill]
    exact ⟨List.cons_ne_nil _ _, rfl, List.forall_mem_singleton.mpr h⟩
  | cons word more ih =>
    rw [fill, List.flatten_cons]
    dsimp only
    split
    · rename_i hfits
      rw [← List.append_assoc]
      exact ih (roomy_append hfits)
    · split
      · rename_i hroom
        have hword : Roomy width ([] ++ word) := roomy_append (by rwa [textWidth, List.foldl_nil,
          Nat.zero_add])
        simpa using (ih hword).append (List.forall_mem_singleton.mpr h)
      · -- The last part of the word is the row begun for the words to come.
        rename_i hwide
        have hne : word ≠ [] := by
          rintro rfl
          exact hwide (Nat.zero_le _)
        obtain ⟨hparts, hflatten, hroomy⟩ := broken_chop hwidth h hne
        generalize (row :: chop width word).dropWhile List.isEmpty = parts at *
        obtain ⟨front, last, rfl⟩ : ∃ front last, parts = front ++ [last] :=
          ⟨_, _, (List.dropLast_append_getLast hparts).symm⟩
        rw [List.dropLast_concat, List.getLastD_concat, ← List.append_assoc, ← hflatten,
          List.flatten_append, List.flatten_singleton, List.append_assoc]
        exact (ih (hroomy last (by simp))).append fun part hpart =>
          hroomy part (List.mem_append_left _ hpart)

end Broken

/-! ## Marks -/

/-- What becomes of a text. Its characters stay, but before a line feed some other than
backslashes may be lost, and blanks come in. -/
inductive Folded : List Char → List Char → Prop
  | nil : Folded [] []
  | keep {c : Char} {t p : List Char} (h : Folded t p) : Folded (c :: t) (c :: p)
  | blank {t p : List Char} (h : Folded t p) : Folded t (' ' :: p)
  | feed {lost t p : List Char} (hlost : '\\' ∉ lost) (h : Folded t p) :
      Folded (lost ++ t) ('\n' :: p)

theorem Folded.exists_of_cons {c : Char} {t p : List Char} (h : Folded t (c :: p))
    (hblank : c ≠ ' ') (hfeed : c ≠ '\n') : ∃ rest, t = c :: rest ∧ Folded rest p := by
  cases h with
  | keep h => exact ⟨_, rfl, h⟩
  | blank => exact absurd rfl hblank
  | feed => exact absurd rfl hfeed

/-- A text stands for the marks that what becomes of it stands for, or more. -/
theorem Folded.standsFor {t p : List Char} {q : Nat} (h : Folded t p) (hq : Tallies p q) :
    StandsFor t q := by
  induction hq generalizing t with
  | nil =>
    cases h
    exact ⟨0, .nil, Nat.le_refl _⟩
  | plain hslash _ ih =>
    cases h with
    | keep h => exact (ih h).cons hslash
    | blank h => exact ih h
    | feed hlost h =>
      -- What was lost has no backslash, and so stands for its own marks.
      exact ((standsFor_self hlost).append (ih h)).mono (Nat.le_add_left _ _)
  | escape he _ ih =>
    obtain ⟨_, rfl, hletter⟩ := h.exists_of_cons (by decide) (by decide)
    obtain ⟨_, rfl, hrest⟩ := hletter.exists_of_cons (fun heq => by rw [heq] at he; cases he)
      fun heq => by rw [heq] at he; cases he
    exact (ih hrest).escape he
  | @code a b c d _ _ _ hk _ ih =>
    -- A line feed or a blank among the digits would leave no escape.
    have hdigit : ∀ x ∈ [a, b, c, d], x ≠ ' ' ∧ x ≠ '\n' := fun x hx =>
      ⟨fun hblank => hexValue_ne_none hk hx (hblank ▸ rfl),
        fun hfeed => hexValue_ne_none hk hx (hfeed ▸ rfl)⟩
    simp only [List.forall_mem_cons] at hdigit
    obtain ⟨ha, hb, hc, hd, -⟩ := hdigit
    obtain ⟨_, rfl, hletter⟩ := h.exists_of_cons (by decide) (by decide)
    obtain ⟨_, rfl, hfirst⟩ := hletter.exists_of_cons (by decide) (by decide)
    obtain ⟨_, rfl, hsecond⟩ := hfirst.exists_of_cons ha.1 ha.2
    obtain ⟨_, rfl, hthird⟩ := hsecond.exists_of_cons hb.1 hb.2
    obtain ⟨_, rfl, hfourth⟩ := hthird.exists_of_cons hc.1 hc.2
    obtain ⟨_, rfl, hrest⟩ := hfourth.exists_of_cons hd.1 hd.2
    exact (ih hrest).code hk

/-! ## Folded lines -/

section Folded

variable {width : Nat} {t p : List Char}

theorem Folded.blanks (h : Folded t p) (n : Nat) : Folded t (List.replicate n ' ' ++ p) := by
  induction n with
  | zero => exact h
  | succ n ih => exact .blank ih

theorem folded_crop_of_not_mem {row lost : List Char} (hrow : '\\' ∉ row) (hlost : '\\' ∉ lost)
    (h : Folded t p) (room : Nat) : Folded (row ++ (lost ++ t)) (crop room row ++ '\n' :: p) := by
  induction row generalizing room with
  | nil =>
    rw [List.nil_append]
    exact .feed hlost h
  | cons c cs ih =>
    rw [crop]
    split
    · exact .keep (ih (fun hmem => hrow (List.mem_cons_of_mem _ hmem)) _)
    · rw [← List.append_assoc]
      refine Folded.blanks (.feed (fun hmem => ?_) h) room
      exact (List.mem_append.mp hmem).elim hrow hlost

theorem folded_crop {row lost : List Char} (hrow : Roomy width row) (hlost : '\\' ∉ lost)
    (h : Folded t p) : Folded (row ++ (lost ++ t)) (crop width row ++ '\n' :: p) := by
  obtain ⟨front, back, rfl, hfront, hback⟩ := hrow
  induction front generalizing width with
  | nil => exact folded_crop_of_not_mem hback hlost h width
  | cons c cs ih =>
    rw [textWidth_cons] at hfront
    rw [List.cons_append, crop, if_pos (by omega)]
    exact .keep (ih (by omega))

/-- A row is shortened by blanks. -/
theorem exists_shorten (width : Nat) (row : List Char) :
    ∃ blanks, row = shorten width row ++ blanks ∧ '\\' ∉ blanks := by
  obtain ⟨blanks, hrow, hblanks⟩ := Text.exists_dropEndWhile isSpace row
  refine ⟨row.drop (max width (trimEnd row).length), (List.take_append_drop _ _).symm, ?_⟩
  have hdrop : row.drop (max width (trimEnd row).length) <:+ blanks := by
    have hafter : (trimEnd row ++ blanks).drop (trimEnd row).length = blanks := List.drop_left
    have htrim : trimEnd row ++ blanks = row := hrow.symm
    rw [htrim] at hafter
    conv_rhs => rw [← hafter]
    exact List.drop_suffix_drop_left _ (Nat.le_max_right _ _)
  exact fun hmem => not_slash_of_isSpace hblanks (hdrop.subset hmem)

theorem folded_row {row : List Char} (hrow : Roomy width row) (lost : List Char)
    (hlost : '\\' ∉ lost) (h : Folded t p) :
    Folded (row ++ (lost ++ t)) (crop width (shorten width row) ++ '\n' :: p) := by
  obtain ⟨blanks, heq, hblanks⟩ := exists_shorten width row
  have hshort : Roomy width (shorten width row) := hrow.of_start (List.take_prefix _ _)
  conv_lhs => rw [heq]
  rw [List.append_assoc, ← List.append_assoc blanks]
  exact folded_crop hshort (fun hmem => (List.mem_append.mp hmem).elim hblanks hlost) h

theorem folded_rows {rows : List (List Char)} (hne : rows ≠ [])
    (hrows : ∀ row ∈ rows, Roomy width row) (h : Folded t p) :
    Folded (rows.flatten ++ '\n' :: t)
      (fed (rows.map fun row => crop width (shorten width row)) ++ p) := by
  induction rows with
  | nil => exact absurd rfl hne
  | cons row rows ih =>
    obtain ⟨hrow, hrows⟩ := List.forall_mem_cons.mp hrows
    rw [List.map_cons, fed_cons, List.append_assoc, List.flatten_cons, List.append_assoc]
    cases rows with
    | nil => exact folded_row hrow ['\n'] (by decide) h
    | cons row' rows =>
      exact folded_row hrow [] nofun (ih (List.cons_ne_nil _ _) hrows)

theorem folded_wrapLine (hwidth : 0 < width) (cs : List Char) (h : Folded t p) :
    Folded (cs ++ '\n' :: t) (fed (wrapLine width cs) ++ p) := by
  have hbroken : Broken width ([] ++ (words cs).flatten) (fill width [] (words cs)) :=
    broken_fill hwidth ⟨[], [], rfl, Nat.zero_le _, nofun⟩
  have hflatten : (fill width [] (words cs)).flatten = cs :=
    hbroken.flatten.trans (flatten_words cs)
  have hfolded := folded_rows hbroken.ne hbroken.roomy h
  rwa [hflatten] at hfolded

/-- On a console with a cell or more lines are folded. -/
theorem folded_wrap (hwidth : 0 < width) (cs : List Char) :
    Folded (cs ++ ['\n']) (wrap width cs) := by
  have hrows : ∀ rows : List (List Char),
      Folded (fed rows) (fed (rows.flatMap (wrapLine width))) := fun rows => by
    induction rows with
    | nil => exact .nil
    | cons row rows ih =>
      rw [fed_cons, List.flatMap_cons, Text.fed_append]
      exact folded_wrapLine hwidth row ih
  rw [← Text.fed_splitOnP]
  exact hrows _

end Folded

end RouteDoc.Console
