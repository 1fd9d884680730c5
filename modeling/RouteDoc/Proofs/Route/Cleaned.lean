import RouteDoc.Proofs.Text.Rows
import RouteDoc.Proofs.Text.Trimmed
import RouteDoc.Route.SourceFile

/-!
# Source text without blank lines

A blank line of a handler is left out if it holds nothing but spaces and tabs before its
line feed. One that ends in a carriage return and a line feed, or holds white space of
another kind, stays.

* `squeezeLines_fed`: of the rows of a text, those of spaces and tabs are left out;
* `splitOn_cleanSource`: the rows of a cleaned text;
* `sourceLines`: lines that end in a line feed, with or without a carriage return;
* `cleanSource_lines`: the lines of a cleaned text, and when none of them is blank;
* `blank_line_stays`: a handler with a blank line.
-/

namespace RouteDoc

open Text (isSpace isBlank trimList fed fed_cons IsTrimmed isTrimmed_trimList)

/-- Characters of a row that is left out if it holds no other. -/
def isFiller (c : Char) : Bool := c == ' ' || c == '\t'

theorem isFiller_iff {c : Char} : isFiller c = true ↔ c = ' ' ∨ c = '\t' := by simp [isFiller]

theorem isSpace_of_isFiller {c : Char} (h : isFiller c = true) : isSpace c = true := by
  rcases isFiller_iff.mp h with rfl | rfl <;> decide

theorem isFiller_of_not_isSpace {c : Char} (h : isSpace c = false) : isFiller c = false :=
  Bool.eq_false_iff.mpr fun hfiller =>
    Bool.false_ne_true (h.symm.trans (isSpace_of_isFiller hfiller))

/-- Whether a row holds more than spaces and tabs. -/
def isKept (row : List Char) : Bool := row.any (!isFiller ·)

theorem isKept_eq_false_iff {row : List Char} :
    isKept row = false ↔ ∀ c ∈ row, c = ' ' ∨ c = '\t' := by
  simp [isKept, isFiller_iff]

/-! ## One row -/

section Row

variable {row : List Char} {c : Char}

theorem squeezeLines_none_append (hrow : '\n' ∉ row) (rest : List Char) :
    squeezeLines none (row ++ rest) = row ++ squeezeLines none rest := by
  induction row with
  | nil => rfl
  | cons c row ih =>
    obtain ⟨hc, hrow⟩ := List.ne_and_not_mem_of_not_mem_cons hrow
    rw [List.cons_append, squeezeLines, if_neg (by simpa using Ne.symm hc), ih hrow]
    rfl

theorem squeezeLines_filler (hc : isFiller c = true) (held rest : List Char) :
    squeezeLines (some held) (c :: rest) = squeezeLines (some (c :: held)) rest := by
  rcases isFiller_iff.mp hc with rfl | rfl <;> rfl

theorem squeezeLines_other (hfeed : c ≠ '\n') (hc : isFiller c = false) (held rest : List Char) :
    squeezeLines (some held) (c :: rest) = held.reverse ++ c :: squeezeLines none rest := by
  rw [squeezeLines, if_neg (by simpa using hfeed)]
  exact if_neg (Bool.eq_false_iff.mp hc)

/-- A row of spaces and tabs is held back. -/
theorem squeezeLines_held (hrow : isKept row = false) (held rest : List Char) :
    squeezeLines (some held) (row ++ rest) = squeezeLines (some (row.reverse ++ held)) rest := by
  induction row generalizing held with
  | nil => rfl
  | cons c row ih =>
    obtain ⟨hc, hrow⟩ : isFiller c = true ∧ isKept row = false := by simpa [isKept] using hrow
    rw [List.cons_append, squeezeLines_filler hc, ih hrow, List.reverse_cons, List.append_assoc]
    rfl

/-- Any other row is put out after what has been held back. -/
theorem squeezeLines_kept (hfeed : '\n' ∉ row) (hrow : isKept row = true) (held rest : List Char) :
    squeezeLines (some held) (row ++ rest) = held.reverse ++ (row ++ squeezeLines none rest) := by
  induction row generalizing held with
  | nil => cases hrow
  | cons c row ih =>
    obtain ⟨hc, hfeed⟩ := List.ne_and_not_mem_of_not_mem_cons hfeed
    by_cases hfiller : isFiller c = true
    · have hrest : isKept row = true := by simpa [isKept, hfiller] using hrow
      rw [List.cons_append, squeezeLines_filler hfiller, ih hfeed hrest, List.reverse_cons,
        List.append_assoc]
      rfl
    · rw [List.cons_append, squeezeLines_other hc.symm (Bool.eq_false_iff.mpr hfiller),
        squeezeLines_none_append hfeed, List.cons_append]

end Row

/-! ## All rows -/

section Rows

variable {rows : List (List Char)} {last : List Char}

/-- After a line feed, the rows of spaces and tabs are left out, if the last one is none. -/
theorem squeezeLines_fed (hrows : ∀ row ∈ rows, '\n' ∉ row) (hfeed : '\n' ∉ last)
    (hlast : isKept last = true) :
    squeezeLines (some []) (fed rows ++ last) = fed (rows.filter isKept) ++ last := by
  induction rows with
  | nil =>
    have hend := squeezeLines_kept hfeed hlast [] []
    rwa [List.append_nil, squeezeLines, List.append_nil] at hend
  | cons row rows ih =>
    obtain ⟨hrow, hrows⟩ := List.forall_mem_cons.mp hrows
    rw [fed_cons, List.append_assoc, List.cons_append]
    by_cases hkept : isKept row = true
    · rw [squeezeLines_kept hrow hkept, List.filter_cons_of_pos hkept, fed_cons, List.append_assoc,
        List.cons_append, ← ih hrows]
      rfl
    · rw [squeezeLines_held (Bool.eq_false_iff.mpr hkept), List.filter_cons_of_neg hkept,
        ← ih hrows]
      rfl

/-- The last row of a text without white space at its end holds more than spaces and tabs. -/
theorem isKept_last (hne : fed rows ++ last ≠ [])
    (hend : ∀ c ∈ (fed rows ++ last).getLast?, isSpace c = false) : isKept last = true := by
  rcases List.eq_nil_or_concat' last with rfl | ⟨front, c, rfl⟩
  · -- Then the text ends in a line feed.
    rcases List.eq_nil_or_concat' rows with rfl | ⟨rows, row, rfl⟩
    · exact absurd rfl hne
    · have hfeed := hend '\n' (by simp [fed])
      exact absurd hfeed (by decide)
  · have hc : isSpace c = false := hend c (by simp)
    exact List.any_eq_true.mpr ⟨c, by simp, by rw [isFiller_of_not_isSpace hc]; rfl⟩

/-- The same from the start of a text without white space at its ends. -/
theorem squeezeLines_of_isTrimmed (hrows : ∀ row ∈ rows, '\n' ∉ row) (hfeed : '\n' ∉ last)
    (hne : fed rows ++ last ≠ []) (htrimmed : IsTrimmed (fed rows ++ last)) :
    squeezeLines none (fed rows ++ last) = fed (rows.filter isKept) ++ last := by
  rw [← squeezeLines_fed hrows hfeed (isKept_last hne htrimmed.last)]
  obtain ⟨c, rest, hcs⟩ := List.exists_cons_of_ne_nil hne
  rw [hcs]
  have hc : isSpace c = false := htrimmed.head c (by rw [hcs]; rfl)
  have hfeed' : c ≠ '\n' := by
    rintro rfl
    cases hc
  have hrest : (if c == '\n' then some [] else none : Option (List Char)) = none :=
    if_neg (by simpa using hfeed')
  rw [squeezeLines_other hfeed' (isFiller_of_not_isSpace hc), squeezeLines, hrest]
  rfl

end Rows

/-! ## Cleaned texts -/

section Cleaned

variable {text : List Char}

theorem exists_rows_cleanSource (htext : ∃ c ∈ text, isSpace c = false) :
    ∃ rows last, trimList text = fed rows ++ last ∧ (∀ row ∈ rows, '\n' ∉ row) ∧ '\n' ∉ last ∧
      isKept last = true ∧ cleanSource text = fed (rows.filter isKept) ++ last := by
  obtain ⟨rows, last, hrows, hfeed, hlast⟩ := Text.exists_fed (trimList text)
  have hne : fed rows ++ last ≠ [] := by
    obtain ⟨c, hc, hspace⟩ := htext
    rw [← hrows, Ne, Text.trimList_eq_nil]
    exact fun hall => Bool.false_ne_true (hspace.symm.trans (hall c hc))
  have htrimmed : IsTrimmed (fed rows ++ last) := hrows ▸ isTrimmed_trimList text
  refine ⟨rows, last, hrows, hfeed, hlast, isKept_last hne htrimmed.last, ?_⟩
  rw [cleanSource, hrows, squeezeLines_of_isTrimmed hfeed hlast hne htrimmed]

theorem not_mem_of_mem_filter {rows : List (List Char)} (h : ∀ row ∈ rows, '\n' ∉ row) :
    ∀ row ∈ rows.filter isKept, '\n' ∉ row :=
  fun row hrow => h row (List.mem_of_mem_filter hrow)

/-- The rows of a cleaned text are those of the trimmed one that hold more than spaces and
tabs. -/
theorem splitOn_cleanSource (htext : ∃ c ∈ text, isSpace c = false) :
    (cleanSource text).splitOn '\n' = ((trimList text).splitOn '\n').filter isKept := by
  obtain ⟨rows, last, hrows, hfeed, hlast, hkept, hclean⟩ := exists_rows_cleanSource htext
  rw [hclean, Text.splitOn_fed (not_mem_of_mem_filter hfeed) hlast, hrows,
    Text.splitOn_fed hfeed hlast, List.filter_append, List.filter_cons_of_pos hkept]
  rfl

theorem isTrimmed_cleanSource (htext : ∃ c ∈ text, isSpace c = false) :
    IsTrimmed (cleanSource text) := by
  obtain ⟨rows, last, hrows, -, -, hkept, hclean⟩ := exists_rows_cleanSource htext
  have htrimmed : IsTrimmed (fed rows ++ last) := hrows ▸ isTrimmed_trimList text
  have hne : last ≠ [] := by
    rintro rfl
    cases hkept
  constructor
  · -- The first character is put out as it is.
    have hhead : (cleanSource text).head? = (trimList text).head? := by
      rw [cleanSource]
      cases trimList text <;> rfl
    rw [hhead, hrows]
    exact htrimmed.head
  · have hend : ∀ rows' : List (List Char), (fed rows' ++ last).getLast? = last.getLast? :=
      fun rows' => by rw [List.getLast?_append_of_ne_nil _ hne]
    rw [hclean, hend, ← hend rows]
    exact htrimmed.last

/-- What has been cleaned stays as it is. -/
theorem cleanSource_cleanSource (text : List Char) :
    cleanSource (cleanSource text) = cleanSource text := by
  by_cases htext : ∃ c ∈ text, isSpace c = false
  · have htrimmed := isTrimmed_cleanSource htext
    obtain ⟨rows, last, -, hfeed, hlast, hkept, hclean⟩ := exists_rows_cleanSource htext
    have hne : fed (rows.filter isKept) ++ last ≠ [] := by
      rintro heq
      rw [(List.append_eq_nil_iff.mp heq).2] at hkept
      cases hkept
    rw [cleanSource, htrimmed.trimList_eq]
    rw [hclean] at htrimmed ⊢
    rw [squeezeLines_of_isTrimmed (not_mem_of_mem_filter hfeed) hlast hne htrimmed,
      List.filter_filter]
    simp only [Bool.and_self]
  · have hnil : cleanSource text = [] := by
      rw [cleanSource, Text.trimList_eq_nil.mpr]
      · rfl
      · exact fun c hc => Bool.of_not_eq_false fun h => htext ⟨c, hc, h⟩
    rw [hnil]
    rfl

end Cleaned

/-! ## Lines -/

/-- A row without a carriage return at its end. -/
def withoutReturn (row : List Char) : List Char :=
  if row.getLast? = some '\r' then row.dropLast else row

/-- The lines of a source text, which end in a line feed, or in a carriage return and a line
feed. -/
def sourceLines (text : List Char) : List (List Char) := (text.splitOn '\n').map withoutReturn

theorem isBlank_withoutReturn (row : List Char) :
    isBlank (withoutReturn row) = isBlank row := by
  rw [withoutReturn]
  split
  · rename_i hlast
    obtain ⟨front, rfl⟩ := List.getLast?_eq_some_iff.mp hlast
    rw [List.dropLast_concat, isBlank, isBlank, List.all_append]
    exact (Bool.and_true _).symm
  · rfl

theorem filter_sourceLines (text : List Char) :
    (sourceLines text).filter (!isBlank ·) =
      ((text.splitOn '\n').filter (!isBlank ·)).map withoutReturn := by
  rw [sourceLines, List.filter_map]
  refine congrArg (List.map withoutReturn) (List.filter_congr fun row _ => ?_)
  exact congrArg (!·) (isBlank_withoutReturn row)

/-- A row that is not blank is kept. -/
theorem isKept_of_not_isBlank {row : List Char} (h : isBlank row = false) :
    isKept row = true := by
  obtain ⟨c, hc, hspace⟩ := List.all_eq_false.mp h
  refine List.any_eq_true.mpr ⟨c, hc, ?_⟩
  rw [isFiller_of_not_isSpace (Bool.eq_false_iff.mpr hspace)]
  rfl

/-- Cleaning a text that is not blank changes none of the lines that are not blank, except
that white space at the ends of the whole text goes, and nothing more when done again. No
blank line is left exactly if the blank lines hold spaces and tabs only, up to their line
feed. -/
theorem cleanSource_lines {text : List Char} (htext : ∃ c ∈ text, isSpace c = false) :
    (sourceLines (cleanSource text)).filter (!isBlank ·) =
        (sourceLines (trimList text)).filter (!isBlank ·) ∧
      cleanSource (cleanSource text) = cleanSource text ∧
      ((∀ line ∈ sourceLines (cleanSource text), isBlank line = false) ↔
        ∀ row ∈ (trimList text).splitOn '\n', isBlank row = true →
          ∀ c ∈ row, c = ' ' ∨ c = '\t') := by
  have hrows := splitOn_cleanSource htext
  refine ⟨?_, cleanSource_cleanSource text, ?_⟩
  · rw [filter_sourceLines, filter_sourceLines, hrows, List.filter_filter]
    refine congrArg (List.map withoutReturn) (List.filter_congr fun row _ => ?_)
    cases hblank : isBlank row with
    | true => rfl
    | false => exact isKept_of_not_isBlank hblank
  · simp only [sourceLines, hrows, List.forall_mem_map, isBlank_withoutReturn,
      List.mem_filter, ← isKept_eq_false_iff]
    constructor
    · intro h row hrow hblank
      refine Bool.eq_false_iff.mpr fun hkept => ?_
      exact Bool.false_ne_true ((h row ⟨hrow, hkept⟩).symm.trans hblank)
    · rintro h row ⟨hrow, hkept⟩
      refine Bool.eq_false_iff.mpr fun hblank => ?_
      exact Bool.false_ne_true ((h row hrow hblank).symm.trans hkept)

/-- A handler with blank lines of spaces and tabs, and a line that ends in a carriage
return. -/
def spacedHandler : List Char := " (req, res) => \x7b\n \t\n\n  res.end();\r\n\x7d\n".toList

theorem cleanSource_lines_spaced :
    (∃ c ∈ spacedHandler, isSpace c = false) ∧
      (∀ line ∈ sourceLines (cleanSource spacedHandler), isBlank line = false) ∧
      (sourceLines (cleanSource spacedHandler)).filter (!isBlank ·) =
        ["(req, res) => \x7b".toList, "  res.end();".toList, "\x7d".toList] := by
  have htext : ∃ c ∈ spacedHandler, isSpace c = false := ⟨'(', by decide, by decide⟩
  have hblank : ∀ row ∈ (trimList spacedHandler).splitOn '\n', isBlank row = true →
      isKept row = false := by decide
  obtain ⟨hlines, -, hnone⟩ := cleanSource_lines htext
  refine ⟨htext, hnone.mpr fun row hrow h => isKept_eq_false_iff.mp (hblank row hrow h),
    hlines.trans ?_⟩
  decide

/-- A handler whose lines end in a carriage return and a line feed, one of them blank. -/
def returnedHandler : List Char := "() => \x7b\r\n\r\n\x7d".toList

/-- The blank line is not left out. -/
theorem blank_line_stays :
    (∃ c ∈ returnedHandler, isSpace c = false) ∧
      sourceLines (cleanSource returnedHandler) = ["() => \x7b".toList, [], "\x7d".toList] ∧
      ((extractFrom ("app.get('/a', ".toList ++ returnedHandler ++ ");".toList) ""
        (some ".js")).routes.map (·.handlerSource)) = [some "() => \x7b\r\n\r\n\x7d"] := by
  refine ⟨⟨'(', by decide, by decide⟩, by decide, ?_⟩
  decide +kernel

end RouteDoc
