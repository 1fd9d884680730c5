import Mathlib.Data.List.TakeWhile
import Mathlib.Tactic.Tauto
import RouteDoc.Proofs.Text.Ascii
import RouteDoc.Proofs.Text.Stretch
import RouteDoc.Route.Path

/-!
# Parameters in paths

A path names a parameter after a colon, in braces or in angle brackets. Names are
looked for word by word: only what stands around a whole word decides whether it is
a name.

* `Style`, `namedIn`: the names that a text gives in some styles;
* `word_induction`, `namedIn_word`: texts and their names word by word;
* `namedIn_normalizeList`: in normal form a path gives the same names in the same
  order, all of them in braces.
-/

namespace RouteDoc

open Text (Ends ends_nil ends_cons Turns turns_of_forall isSpace)

/-! ## Words -/

theorem isNameChar_of_isNameStart {c : Char} (h : isNameStart c = true) : isNameChar c = true := by
  simp only [isNameStart, Bool.or_eq_true] at h
  simp only [isNameChar, Char.isAlphanum, Bool.or_eq_true]
  exact h.imp_left .inl

theorem prefix_nameAhead (cs : List Char) : nameAhead cs <+: cs := by
  unfold nameAhead
  split
  · split
    · exact List.takeWhile_prefix _
    · exact List.nil_prefix
  · exact List.nil_prefix

theorem isNameChar_of_mem_nameAhead {cs : List Char} {c : Char} (hc : c ∈ nameAhead cs) :
    isNameChar c = true := by
  unfold nameAhead at hc
  split at hc
  · split at hc
    · exact List.mem_takeWhile_imp hc
    · cases hc
  · cases hc

theorem nameAhead_append_of_ends {rest : List Char} (h : Ends isNameChar rest) (cs : List Char) :
    nameAhead (cs ++ rest) = nameAhead cs := by
  cases cs with
  | cons c cs =>
    rw [List.cons_append, nameAhead, nameAhead, ← List.cons_append,
      Text.takeWhile_append_of_ends h]
  | nil =>
    cases rest with
    | nil => rfl
    | cons d rest =>
      have hstart : ¬ isNameStart d = true := fun hd =>
        Bool.false_ne_true ((ends_cons.mp h).symm.trans (isNameChar_of_isNameStart hd))
      rw [List.nil_append, nameAhead, if_neg hstart]
      rfl

theorem nameAhead_append {d : Char} (hd : isNameChar d = false) (cs rest : List Char) :
    nameAhead (cs ++ d :: rest) = nameAhead cs :=
  nameAhead_append_of_ends (ends_cons.mpr hd) cs

/-- Characters of names only. -/
def IsWord (w : List Char) : Prop := ∀ c ∈ w, isNameChar c = true

theorem isWord_append {v w : List Char} (hv : IsWord v) (hw : IsWord w) : IsWord (v ++ w) :=
  fun c hc => (List.mem_append.mp hc).elim (hv c) (hw c)

theorem isWord_of_all {w : List Char} (h : w.all isNameChar = true) : IsWord w :=
  List.all_eq_true.mp h

/-- Whether a word may be a name. -/
def startsName (w : List Char) : Bool := w.head?.any isNameStart

theorem nameAhead_of_isWord {w : List Char} (hw : IsWord w) :
    nameAhead w = if startsName w then w else [] := by
  cases w with
  | nil => rfl
  | cons c w =>
    rw [nameAhead, List.takeWhile_eq_self_iff.mpr hw]
    rfl

/-- A text is a word and what follows it. -/
theorem exists_word (cs : List Char) :
    ∃ w rest, cs = w ++ rest ∧ IsWord w ∧ Ends isNameChar rest := by
  exact ⟨cs.takeWhile isNameChar, cs.dropWhile isNameChar,
    List.takeWhile_append_dropWhile.symm, fun c hc => List.mem_takeWhile_imp hc,
    Text.ends_dropWhile isNameChar cs⟩

/-- A property holds of all texts if it passes from what follows a word to the text
that begins one character before the word. -/
theorem word_induction {P : List Char → Prop} (nil : P [])
    (word : ∀ c w rest, IsWord w → Ends isNameChar rest → P rest → P (c :: (w ++ rest)))
    (cs : List Char) : P cs := by
  induction hn : cs.length using Nat.strongRecOn generalizing cs with
  | ind n ih =>
    cases cs with
    | nil => exact nil
    | cons c cs =>
      obtain ⟨w, rest, rfl, hw, hrest⟩ := exists_word cs
      refine word c w rest hw hrest (ih rest.length ?_ rest rfl)
      rw [← hn, List.length_cons, List.length_append]
      omega

/-! ## Names in some styles -/

/-- The styles in which a path names a parameter. -/
inductive Style
  | colon
  | braces
  | angles
  deriving DecidableEq

namespace Style

/-- The character before a name. -/
def opening : Style → Char
  | colon => ':'
  | braces => '{'
  | angles => '<'

/-- The character after a name, if one has to stand there. -/
def closing : Style → Option Char
  | colon => none
  | braces => some '}'
  | angles => some '>'

/-- Whether a name between two characters is that of a parameter. -/
def marks (s : Style) (before : Char) (after : Option Char) : Bool :=
  before == s.opening && (s.closing.isNone || after == s.closing)

end Style

/-- The names that a text gives in some styles, in order. -/
def namedIn (styles : List Style) : List Char → List String
  | [] => []
  | c :: cs =>
    let name := nameAhead cs
    let found := !name.isEmpty && styles.any (·.marks c (cs.drop name.length).head?)
    (if found then [String.ofList name] else []) ++ namedIn styles cs

/-- The parameters of a route are those named after a colon and in braces. -/
theorem parameterNames_eq (cs : List Char) :
    parameterNames cs = namedIn [.colon, .braces] cs := by
  induction cs with
  | nil => rfl
  | cons c cs ih => simp [parameterNames, namedIn, ih, Style.marks, Style.opening, Style.closing]

/-- The parameters of a path are these names, each once. -/
theorem map_name_pathParameters (path : String) :
    (pathParameters path).map (·.name) = (namedIn [.colon, .braces] path.toList).eraseDups := by
  rw [← parameterNames_eq, pathParameters, List.map_map]
  exact List.map_id'' (fun _ => rfl) _

theorem mem_namedIn_cons {s : Style} {styles : List Style} {cs : List Char} {name : String} :
    name ∈ namedIn (s :: styles) cs ↔ name ∈ namedIn [s] cs ∨ name ∈ namedIn styles cs := by
  induction cs with
  | nil => simp [namedIn]
  | cons c cs ih =>
    simp only [namedIn, List.mem_append, ih, List.any_cons, List.any_nil, Bool.or_false,
      List.mem_ite_nil_right, Bool.and_eq_true, Bool.or_eq_true]
    tauto

/-- Whether a name may come after a character. -/
def opensName (c : Char) : Bool := c == ':' || c == '{' || c == '<'

section Words

variable {styles : List Style} {c : Char} {w rest : List Char}

theorem marks_eq_false (h : opensName c = false) (s : Style) (after : Option Char) :
    s.marks c after = false := by
  simp only [opensName, Bool.or_eq_false_iff] at h
  cases s <;> simp [Style.marks, Style.opening, h]

theorem namedIn_cons_of_not_opensName (h : opensName c = false) (cs : List Char) :
    namedIn styles (c :: cs) = namedIn styles cs := by
  rw [namedIn, if_neg]
  · rfl
  · simp [marks_eq_false h]

theorem namedIn_append_of_not_opensName (h : ∀ d ∈ w, opensName d = false) (rest : List Char) :
    namedIn styles (w ++ rest) = namedIn styles rest := by
  induction w with
  | nil => rfl
  | cons d w ih =>
    obtain ⟨hd, hw⟩ := List.forall_mem_cons.mp h
    rw [List.cons_append, namedIn_cons_of_not_opensName hd, ih hw]

theorem opensName_of_isNameChar (h : isNameChar c = true) : opensName c = false := by
  refine Bool.eq_false_iff.mpr fun ho => ?_
  simp only [opensName, Bool.or_eq_true, beq_iff_eq] at ho
  rcases ho with (rfl | rfl) | rfl <;> exact absurd h (by decide)

theorem namedIn_append_of_isWord (hw : IsWord w) (rest : List Char) :
    namedIn styles (w ++ rest) = namedIn styles rest :=
  namedIn_append_of_not_opensName (fun d hd => opensName_of_isNameChar (hw d hd)) rest

/-- Names word by word. -/
theorem namedIn_word (hw : IsWord w) (hrest : Ends isNameChar rest) :
    namedIn styles (c :: (w ++ rest)) =
      (if startsName w && styles.any (·.marks c rest.head?) then [String.ofList w] else []) ++
        namedIn styles rest := by
  rw [namedIn, nameAhead_append_of_ends hrest, nameAhead_of_isWord hw,
    namedIn_append_of_isWord hw]
  cases hs : startsName w with
  | false => simp
  | true =>
    have hne : w.isEmpty = false := by
      rw [List.isEmpty_eq_false_iff]
      rintro rfl
      cases hs
    simp [hne]

/-- What stands at the end without being part of a name makes no difference. -/
theorem namedIn_append_idle {t : List Char}
    (ht : ∀ d ∈ t, isNameChar d = false ∧ opensName d = false ∧ d ≠ '}' ∧ d ≠ '>')
    (cs : List Char) : namedIn styles (cs ++ t) = namedIn styles cs := by
  have hidle : namedIn styles t = [] := by
    have happend : namedIn styles (t ++ []) = [] :=
      namedIn_append_of_not_opensName (fun d hd => (ht d hd).2.1) []
    rwa [List.append_nil] at happend
  induction cs using word_induction with
  | nil => exact hidle
  | word c w rest hw hrest ih =>
    have hends : Ends isNameChar (rest ++ t) :=
      hrest.append fun d hd => (ht d (List.mem_of_mem_head? hd)).1
    have hmarks : ∀ s : Style, s.marks c (rest ++ t).head? = s.marks c rest.head? := by
      intro s
      cases rest with
      | cons d rest => rfl
      | nil =>
        cases t with
        | nil => rfl
        | cons d t =>
          obtain ⟨-, -, hbrace, hangle⟩ := ht d List.mem_cons_self
          cases s <;> simp [Style.marks, Style.closing, hbrace, hangle]
    rw [List.cons_append, List.append_assoc, namedIn_word hw hends, namedIn_word hw hrest, ih]
    simp only [hmarks]

end Words

/-! ## Names in braces -/

section Braces

variable {s : Style} {styles : List Style} {c : Char} {w rest : List Char}

theorem braceNames_skip (opening : Char) (closing : Option Char) (skip : Nat) (cs : List Char) :
    braceNames opening closing skip cs = braceNames opening closing 0 (cs.drop skip) := by
  induction cs generalizing skip with
  | nil => cases skip <;> rfl
  | cons c cs ih =>
    cases skip with
    | zero => rfl
    | succ skip => rw [braceNames, ih, List.drop_succ_cons]

theorem braceNames_keep {opening : Char} {closing : Option Char} (h : c ≠ opening)
    (cs : List Char) :
    braceNames opening closing 0 (c :: cs) = c :: braceNames opening closing 0 cs := by
  rw [braceNames, if_neg (by simp [h])]

theorem turns_braceNames (hs : isNameChar s.opening = false) (hw : IsWord w) :
    Turns (braceNames s.opening s.closing 0) w w := by
  refine turns_of_forall fun c hc rest => braceNames_keep ?_ rest
  rintro rfl
  exact Bool.false_ne_true (hs.symm.trans (hw _ hc))

/-- A whole word is kept, or written in braces if it is a name. -/
theorem braceNames_word (hs : isNameChar s.opening = false) (hw : IsWord w)
    (hrest : Ends isNameChar rest) :
    braceNames s.opening s.closing 0 (c :: (w ++ rest)) =
      if startsName w && s.marks c rest.head? then
        '{' :: (w ++ '}' :: braceNames s.opening s.closing 0
          (rest.drop (if s.closing.isSome then 1 else 0)))
      else c :: (w ++ braceNames s.opening s.closing 0 rest) := by
  rw [braceNames, nameAhead_append_of_ends hrest, nameAhead_of_isWord hw]
  cases hstart : startsName w with
  | false =>
    rw [if_neg (by simp), if_neg (by simp), turns_braceNames hs hw]
  | true =>
    have hne : w.isEmpty = false := by
      rw [List.isEmpty_eq_false_iff]
      rintro rfl
      cases hstart
    have hdrop : (w ++ rest).drop (w.length + if s.closing.isSome then 1 else 0) =
        rest.drop (if s.closing.isSome then 1 else 0) := by
      rw [List.drop_append, List.drop_of_length_le (Nat.le_add_right _ _), Nat.add_sub_cancel_left,
        List.nil_append]
    rw [if_pos rfl, List.drop_left, hne, braceNames_skip _ _ (_ + _), hdrop,
      turns_braceNames hs hw rest, Bool.not_false, Bool.and_true, Bool.true_and]
    rfl

/-- What is written next is what was next, or a brace for the mark of a name. -/
theorem head?_braceNames (s : Style) (cs : List Char) :
    (braceNames s.opening s.closing 0 cs).head? = cs.head? ∨
      cs.head? = some s.opening ∧ (braceNames s.opening s.closing 0 cs).head? = some '{' := by
  cases cs with
  | nil => exact .inl rfl
  | cons c cs =>
    by_cases hc : c = s.opening
    · subst hc
      rw [braceNames]
      split
      · exact .inr ⟨rfl, rfl⟩
      · exact .inl rfl
    · rw [braceNames_keep hc]
      exact .inl rfl

/-- No opening mark is a closing one, or belongs to a word. -/
theorem marks_head?_braceNames (s t : Style) (c : Char) (cs : List Char) :
    t.marks c (braceNames s.opening s.closing 0 cs).head? = t.marks c cs.head? := by
  rcases head?_braceNames s cs with h | ⟨h, h'⟩
  · rw [h]
  · rw [h, h']
    cases t <;> cases s <;> simp [Style.marks, Style.opening, Style.closing]

theorem ends_braceNames (s : Style) {cs : List Char} (h : Ends isNameChar cs) :
    Ends isNameChar (braceNames s.opening s.closing 0 cs) := by
  intro c hc
  rcases head?_braceNames s cs with h' | ⟨-, h'⟩
  · exact h c (h' ▸ hc)
  · obtain rfl : '{' = c := Option.some.inj (h'.symm.trans hc)
    decide

/-- The mark that closes a name is kept after it. -/
theorem braceNames_of_marks (h : s.marks c rest.head? = true) :
    braceNames s.opening s.closing 0 rest = s.closing.toList ++
      braceNames s.opening s.closing 0 (rest.drop (if s.closing.isSome then 1 else 0)) := by
  cases hclosing : s.closing with
  | none => rfl
  | some d =>
    have hhead : rest.head? = some d := by
      simpa [Style.marks, hclosing] using ((Bool.and_eq_true _ _).mp h).2
    obtain ⟨more, rfl⟩ := List.head?_eq_some_iff.mp hhead
    have hd : d ≠ s.opening := by cases s <;> cases hclosing <;> decide
    rw [braceNames_keep hd]
    rfl

/-- A mark that closes a name gives no name itself. -/
theorem namedIn_closing (h : s.marks c rest.head? = true) :
    namedIn styles (braceNames s.opening s.closing 0
        (rest.drop (if s.closing.isSome then 1 else 0))) =
      namedIn styles (braceNames s.opening s.closing 0 rest) := by
  have hclosing : ∀ d ∈ s.closing.toList, opensName d = false := by
    intro d hd
    rw [Option.mem_toList] at hd
    cases s <;> cases hd <;> decide
  rw [braceNames_of_marks h, namedIn_append_of_not_opensName hclosing]

/-- Names of one style are found in braces once they are written so. -/
theorem namedIn_braceNames (s : Style) (hstyles : .braces ∈ styles) (cs : List Char) :
    namedIn styles (braceNames s.opening s.closing 0 cs) = namedIn (s :: styles) cs := by
  have hs : isNameChar s.opening = false := by cases s <;> decide
  induction cs using word_induction with
  | nil => rfl
  | word c w rest hw hrest ih =>
    rw [braceNames_word hs hw hrest, namedIn_word hw hrest, List.any_cons]
    cases hname : startsName w with
    | false =>
      rw [if_neg (by simp), namedIn_word hw (ends_braceNames s hrest), ih, hname]
      rfl
    | true =>
      cases hmark : s.marks c rest.head? with
      | false =>
        rw [if_neg (by simp), namedIn_word hw (ends_braceNames s hrest), ih, hname]
        simp only [marks_head?_braceNames, Bool.false_or]
      | true =>
        rw [if_pos (by simp), namedIn_word hw (ends_cons.mpr (by decide)), hname,
          namedIn_cons_of_not_opensName (by decide), namedIn_closing hmark, ih]
        have hbraces : (styles.any fun t => t.marks '{' ('}' :: braceNames s.opening s.closing 0
            (rest.drop (if s.closing.isSome then 1 else 0))).head?) = true :=
          List.any_eq_true.mpr ⟨.braces, hstyles, rfl⟩
        rw [hbraces]
        rfl

end Braces

/-! ## Paths in normal form -/

section Slashes

variable {styles : List Style}

theorem singleSlashes_keep {c : Char} (h : c ≠ '/') (cs : List Char) :
    singleSlashes (c :: cs) = c :: singleSlashes cs := by
  rw [singleSlashes]
  exact fun _ hc _ => h hc

theorem head?_singleSlashes (cs : List Char) : (singleSlashes cs).head? = cs.head? := by
  fun_induction singleSlashes cs with
  | case1 cs ih => exact ih
  | case2 | case3 => rfl

theorem turns_singleSlashes {w : List Char} (hw : IsWord w) : Turns singleSlashes w w := by
  refine turns_of_forall fun c hc rest => singleSlashes_keep ?_ rest
  rintro rfl
  exact Bool.false_ne_true ((by decide : isNameChar '/' = false).symm.trans (hw _ hc))

theorem namedIn_singleSlashes_slash (cs : List Char) :
    namedIn styles (singleSlashes ('/' :: cs)) = namedIn styles (singleSlashes cs) := by
  have hkeep : ∀ cs, namedIn styles ('/' :: cs) = namedIn styles cs :=
    namedIn_cons_of_not_opensName (by decide)
  cases cs with
  | nil => exact hkeep []
  | cons d cs =>
    by_cases hd : d = '/'
    · rw [hd, singleSlashes]
    · rw [singleSlashes, hkeep]
      exact fun _ _ hcs => hd (List.cons.inj hcs).1

theorem namedIn_singleSlashes (cs : List Char) :
    namedIn styles (singleSlashes cs) = namedIn styles cs := by
  induction cs using word_induction with
  | nil => rfl
  | word c w rest hw hrest ih =>
    by_cases hc : c = '/'
    · rw [hc, namedIn_singleSlashes_slash, turns_singleSlashes hw, namedIn_append_of_isWord hw, ih,
        namedIn_cons_of_not_opensName (by decide), namedIn_append_of_isWord hw]
    · have hends : Ends isNameChar (singleSlashes rest) := by
        rw [Ends, head?_singleSlashes]
        exact hrest
      rw [singleSlashes_keep hc, turns_singleSlashes hw, namedIn_word hw hends,
        namedIn_word hw hrest, head?_singleSlashes, ih]

end Slashes

section Normal

variable {styles : List Style}

theorem not_of_isSpace {c : Char} (h : isSpace c = true) :
    isNameChar c = false ∧ opensName c = false ∧ c ≠ '}' ∧ c ≠ '>' := by
  have hnot : ∀ {d}, isSpace d = false → c ≠ d := by
    rintro d hd rfl
    exact Bool.false_ne_true (hd.symm.trans h)
  have hletter : c.isAlphanum = false := Bool.eq_false_iff.mpr fun hc =>
    Bool.false_ne_true ((Text.isSpace_of_isAlphanum hc).symm.trans h)
  simp [isNameChar, opensName, hletter, hnot (d := '_') (by decide), hnot (d := ':') (by decide),
    hnot (d := '{') (by decide), hnot (d := '<') (by decide), hnot (d := '}') (by decide),
    hnot (d := '>') (by decide)]

theorem namedIn_trimList (cs : List Char) :
    namedIn styles (Text.trimList cs) = namedIn styles cs := by
  have hfront : cs.takeWhile isSpace ++ Text.trimStart cs = cs := List.takeWhile_append_dropWhile
  have hback : Text.trimList cs ++ ((Text.trimStart cs).reverse.takeWhile isSpace).reverse =
      Text.trimStart cs := by
    rw [Text.trimList, Text.trimEnd, Text.dropEndWhile, ← List.reverse_append,
      List.takeWhile_append_dropWhile, List.reverse_reverse]
  have hidle : ∀ c ∈ ((Text.trimStart cs).reverse.takeWhile isSpace).reverse,
      isNameChar c = false ∧ opensName c = false ∧ c ≠ '}' ∧ c ≠ '>' := fun c hc =>
    not_of_isSpace (List.mem_takeWhile_imp (List.mem_reverse.mp hc))
  calc namedIn styles (Text.trimList cs)
      = namedIn styles (Text.trimStart cs) := by
        rw [← namedIn_append_idle hidle, hback]
    _ = namedIn styles cs := by
        rw [← namedIn_append_of_not_opensName (w := cs.takeWhile isSpace)
          (fun c hc => (not_of_isSpace (List.mem_takeWhile_imp hc)).2.1), hfront]

/-- In normal form a path gives all its names in braces, in the same order. -/
theorem namedIn_normalizeList (cs : List Char) :
    namedIn [.braces] (normalizeList cs) = namedIn [.angles, .colon, .braces] cs := by
  unfold normalizeList
  extract_lets trimmed rooted braced single
  have hrooted : namedIn [.angles, .colon, .braces] rooted =
      namedIn [.angles, .colon, .braces] cs := by
    rw [← namedIn_trimList cs]
    simp only [rooted]
    split
    · rfl
    · exact namedIn_cons_of_not_opensName (by decide) _
  have hsingle : namedIn [.braces] single = namedIn [.angles, .colon, .braces] rooted := by
    calc namedIn [.braces] single
        = namedIn [.braces] braced := namedIn_singleSlashes braced
      _ = namedIn [.colon, .braces] (braceNames '<' (some '>') 0 rooted) :=
        namedIn_braceNames .colon (by decide) _
      _ = namedIn [.angles, .colon, .braces] rooted := namedIn_braceNames .angles (by decide) _
  rw [← hrooted, ← hsingle]
  split
  · rename_i hslash
    obtain ⟨front, hfront⟩ := List.getLast?_eq_some_iff.mp
      (beq_iff_eq.mp ((Bool.and_eq_true _ _).mp hslash).2)
    rw [hfront, List.dropLast_concat]
    exact (namedIn_append_idle (List.forall_mem_singleton.mpr (by decide)) front).symm
  · rfl

end Normal

end RouteDoc
