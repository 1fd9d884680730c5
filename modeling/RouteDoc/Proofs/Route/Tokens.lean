import Mathlib.Data.List.Infix
import RouteDoc.Proofs.Route.Names

/-!
# Names and tokens

A style writes a name as a token: the name between the marks of the style. The names that
a text gives in a style are those of its tokens.

* `Style.token`, `namedIn_eq_nil_iff`: tokens, and texts that hold none of a style;
* `braceNames_append`: what stands before a mark is rewritten on its own;
* `braceNames_token`, `braceNames_token_of_ne`: the tokens of a style are rewritten, those
  of the others stay;
* `namedIn_braceNames_of_ne`: no token of a style is left when its names are in braces.
-/

namespace RouteDoc

open Text (Ends ends_cons isSpace)

/-! ## Tokens -/

/-- A word that may be the name of a parameter. -/
def IsParameterName (w : List Char) : Prop := IsWord w ∧ startsName w = true

/-- A name as a style writes it. -/
def Style.token (s : Style) (name : List Char) : List Char :=
  s.opening :: (name ++ s.closing.toList)

theorem isNameChar_opening (s : Style) : isNameChar s.opening = false := by
  cases s <;> decide

section Tokens

variable {s : Style} {name rest : List Char}

theorem isSpace_of_isNameChar {c : Char} (h : isNameChar c = true) : isSpace c = false :=
  Bool.eq_false_iff.mpr fun hspace => Bool.false_ne_true ((not_of_isSpace hspace).1.symm.trans h)

theorem isSpace_of_mem_token (hname : IsParameterName name) : ∀ c ∈ s.token name, isSpace c = false := by
  intro c hc
  simp only [Style.token, List.mem_cons, List.mem_append, Option.mem_toList] at hc
  rcases hc with rfl | hc | hc
  · cases s <;> decide
  · exact isSpace_of_isNameChar (hname.1 c hc)
  · cases s <;> cases hc <;> decide

theorem token_append (s : Style) (name rest : List Char) :
    s.token name ++ rest = s.opening :: (name ++ (s.closing.toList ++ rest)) := by
  rw [Style.token, List.cons_append, List.append_assoc]

theorem ends_closing (hrest : Ends isNameChar rest) : Ends isNameChar (s.closing.toList ++ rest) := by
  cases s with
  | colon => exact hrest
  | braces | angles => exact ends_cons.mpr (by decide)

end Tokens

/-- A name written in a style is found in it. -/
theorem namedIn_token_ne_nil {s : Style} {name : List Char} (hname : IsParameterName name)
    (back : List Char) : namedIn [s] (s.token name ++ back) ≠ [] := by
  obtain ⟨hword, hstart⟩ := hname
  have hfound : ∀ v rest, IsWord v → Ends isNameChar rest → s.closing.toList ++ back = v ++ rest →
      s.marks s.opening rest.head? = true → namedIn [s] (s.token name ++ back) ≠ [] := by
    intro v rest hv hrest hback hmark
    have hstarts : startsName (name ++ v) = true := by
      cases name with
      | nil => cases hstart
      | cons c name => exact hstart
    rw [token_append, hback, ← List.append_assoc, namedIn_word (isWord_append hword hv) hrest, hstarts]
    simp [hmark]
  cases hclosing : s.closing with
  | none =>
    obtain ⟨v, rest, hback, hv, hrest⟩ := exists_word back
    exact hfound v rest hv hrest (by rw [hclosing]; exact hback) (by simp [Style.marks, hclosing])
  | some d =>
    have hd : isNameChar d = false := by cases s <;> cases hclosing <;> decide
    exact hfound [] (d :: back) (by simp [IsWord]) (ends_cons.mpr hd) (by rw [hclosing]; rfl)
      (by simp [Style.marks, hclosing])

theorem token_prefix_of_marks {s : Style} {c : Char} {rest : List Char}
    (h : s.marks c rest.head? = true) (w : List Char) : s.token w <+: c :: (w ++ rest) := by
  obtain ⟨hopening, hclosed⟩ := (Bool.and_eq_true _ _).mp h
  obtain rfl : c = s.opening := beq_iff_eq.mp hopening
  cases hclosing : s.closing with
  | none =>
    rw [Style.token, hclosing]
    exact ⟨rest, by simp⟩
  | some d =>
    have hhead : rest.head? = some d := by simpa [hclosing] using hclosed
    obtain ⟨more, rfl⟩ := List.head?_eq_some_iff.mp hhead
    rw [Style.token, hclosing]
    exact ⟨more, by simp⟩

/-- A text gives no name in a style just if no token of that style stands in it. -/
theorem namedIn_eq_nil_iff {s : Style} {cs : List Char} :
    namedIn [s] cs = [] ↔ ∀ name, IsParameterName name → ¬ s.token name <:+: cs := by
  constructor
  · rintro h name hname ⟨front, back, rfl⟩
    refine namedIn_token_ne_nil (s := s) hname back ?_
    induction front with
    | nil => exact h
    | cons c front ih =>
      rw [List.cons_append, List.cons_append, namedIn] at h
      exact ih (List.append_eq_nil_iff.mp h).2
  · intro h
    induction cs using word_induction with
    | nil => rfl
    | word c w rest hw hrest ih =>
      have hlater : namedIn [s] rest = [] := ih fun name hname hwithin =>
        h name hname (hwithin.trans (List.suffix_append (c :: w) rest).isInfix)
      have hhere : ¬ (startsName w && [s].any (·.marks c rest.head?)) = true := by
        simp only [List.any_cons, List.any_nil, Bool.or_false, Bool.and_eq_true]
        exact fun hname => h w ⟨hw, hname.1⟩ (token_prefix_of_marks hname.2 w).isInfix
      rw [namedIn_word hw hrest, hlater, if_neg hhere]
      rfl

/-! ## Rewriting tokens -/

section Rewriting

variable {s t : Style} {c : Char} {name w rest : List Char}

/-- What follows is rewritten on its own if it can neither go on with a name nor
close one. -/
theorem braceNames_append (hends : Ends isNameChar rest)
    (hclosing : ∀ d ∈ rest.head?, s.closing ≠ some d) (cs : List Char) :
    braceNames s.opening s.closing 0 (cs ++ rest) =
      braceNames s.opening s.closing 0 cs ++ braceNames s.opening s.closing 0 rest := by
  have hs := isNameChar_opening s
  induction cs using word_induction with
  | nil => rfl
  | word c w more hw hmore ih =>
    have hmarks : s.marks c (more ++ rest).head? = s.marks c more.head? := by
      cases more with
      | cons d more => rfl
      | nil =>
        cases rest with
        | nil => rfl
        | cons d rest =>
          have hd : s.closing ≠ some d := hclosing d rfl
          cases hc : s.closing with
          | none => simp [Style.marks, hc]
          | some e =>
            have hne : d ≠ e := fun h => hd (h ▸ hc)
            simp [Style.marks, hc, hne]
    rw [List.cons_append, List.append_assoc, braceNames_word hs hw (hmore.append hends),
      braceNames_word hs hw hmore, hmarks]
    split
    · rename_i hname
      have hmark : s.marks c more.head? = true := ((Bool.and_eq_true _ _).mp hname).2
      rw [braceNames_of_marks (hmarks.trans hmark), braceNames_of_marks hmark, List.append_assoc,
        List.append_cancel_left_eq] at ih
      rw [ih]
      simp only [List.cons_append, List.append_assoc]
    · rw [ih, List.cons_append, List.append_assoc]

theorem eq_of_marks {after after' : Option Char} (hs : s.marks c after = true)
    (ht : t.marks c after' = true) : t = s := by
  have hs : c = s.opening := beq_iff_eq.mp ((Bool.and_eq_true _ _).mp hs).1
  have ht : c = t.opening := beq_iff_eq.mp ((Bool.and_eq_true _ _).mp ht).1
  have h : t.opening = s.opening := ht.symm.trans hs
  revert h
  cases s <;> cases t <;> decide

theorem marks_opening (s : Style) : s.marks s.opening s.closing = true := by
  cases s <;> rfl

/-- After the names of a style are written in braces, none is left in that style, and
those of the other styles are what they were. -/
theorem namedIn_braceNames_of_ne (ht : t ≠ .braces) (cs : List Char) :
    namedIn [t] (braceNames s.opening s.closing 0 cs) = if t = s then [] else namedIn [t] cs := by
  have hs := isNameChar_opening s
  induction cs using word_induction with
  | nil => simp [braceNames, namedIn]
  | word c w rest hw hrest ih =>
    rw [braceNames_word hs hw hrest]
    split
    · rename_i hname
      have hmark : s.marks c rest.head? = true := ((Bool.and_eq_true _ _).mp hname).2
      have hbrace : ∀ after, t.marks '{' after = false := fun after =>
        Bool.eq_false_iff.mpr fun h => ht (eq_of_marks (marks_opening .braces) h)
      rw [namedIn_word hw (ends_cons.mpr (by decide)), namedIn_cons_of_not_opensName (by decide),
        namedIn_closing hmark, ih]
      simp only [List.any_cons, List.any_nil, hbrace, Bool.or_false, Bool.and_false]
      by_cases hts : t = s
      · simp [hts]
      · have hother : t.marks c rest.head? = false :=
          Bool.eq_false_iff.mpr fun h => hts (eq_of_marks hmark h)
        rw [if_neg hts, namedIn_word hw hrest]
        simp [hother, hts]
    · rename_i hname
      rw [namedIn_word hw (ends_braceNames s hrest), ih, namedIn_word hw hrest]
      simp only [marks_head?_braceNames, List.any_cons, List.any_nil, Bool.or_false]
      by_cases hts : t = s
      · subst hts
        simp [hname]
      · simp [hts]

/-- A text without names of a style stays as it is. -/
theorem braceNames_eq_self (cs : List Char) (h : namedIn [s] cs = []) :
    braceNames s.opening s.closing 0 cs = cs := by
  have hs := isNameChar_opening s
  induction cs using word_induction with
  | nil => rfl
  | word c w rest hw hrest ih =>
    rw [namedIn_word hw hrest] at h
    obtain ⟨hname, hnone⟩ := List.append_eq_nil_iff.mp h
    rw [braceNames_word hs hw hrest, ih hnone, if_neg]
    simpa using hname

theorem braceNames_token (hname : IsParameterName name) (hrest : Ends isNameChar rest) :
    braceNames s.opening s.closing 0 (s.token name ++ rest) =
      Style.braces.token name ++ braceNames s.opening s.closing 0 rest := by
  have hmark : s.marks s.opening (s.closing.toList ++ rest).head? = true := by
    cases s <;> simp [Style.marks, Style.closing]
  have hdrop : (s.closing.toList ++ rest).drop (if s.closing.isSome then 1 else 0) = rest := by
    cases s <;> rfl
  rw [token_append, braceNames_word (isNameChar_opening s) hname.1 (ends_closing hrest), if_pos,
    hdrop, token_append]
  · rfl
  · rw [hname.2, hmark]
    rfl

theorem braceNames_token_of_ne (hts : t ≠ s) (hname : IsParameterName name) (hrest : Ends isNameChar rest) :
    braceNames t.opening t.closing 0 (s.token name ++ rest) =
      s.token name ++ braceNames t.opening t.closing 0 rest := by
  have hmark : ¬ t.marks s.opening (s.closing.toList ++ rest).head? = true := fun h =>
    hts (eq_of_marks (marks_opening s) h)
  have hkeep : braceNames t.opening t.closing 0 (s.closing.toList ++ rest) =
      s.closing.toList ++ braceNames t.opening t.closing 0 rest := by
    cases hclosing : s.closing with
    | none => rfl
    | some d => exact braceNames_keep (by cases s <;> cases t <;> cases hclosing <;> decide) rest
  rw [token_append, braceNames_word (isNameChar_opening t) hname.1 (ends_closing hrest), if_neg,
    hkeep, token_append]
  exact fun h => hmark ((Bool.and_eq_true _ _).mp h).2

/-- The last character stays where it is, unless a brace comes to stand at the end. -/
theorem getLast?_braceNames (s : Style) (cs : List Char) :
    ∀ d ∈ (braceNames s.opening s.closing 0 cs).getLast?, d = '}' ∨ cs.getLast? = some d := by
  induction cs using word_induction with
  | nil => exact fun d hd => nomatch hd
  | word c w rest hw hrest ih =>
    have hlater : ∀ e, rest.getLast? = some e → (c :: (w ++ rest)).getLast? = some e := by
      intro e he
      rw [← List.cons_append, List.getLast?_append, he]
      rfl
    intro d hd
    rw [braceNames_word (isNameChar_opening s) hw hrest] at hd
    split at hd
    · rename_i hname
      have hmark : s.marks c rest.head? = true := ((Bool.and_eq_true _ _).mp hname).2
      rw [braceNames_of_marks hmark] at ih
      generalize braceNames s.opening s.closing 0
        (rest.drop (if s.closing.isSome then 1 else 0)) = more at hd ih
      rw [← List.cons_append, List.getLast?_append, List.getLast?_cons] at hd
      cases hmore : more.getLast? with
      | none => exact .inl (by simpa [hmore] using hd.symm)
      | some e =>
        obtain rfl : e = d := by simpa [hmore] using hd
        exact (ih e (by rw [List.getLast?_append, hmore]; rfl)).imp id (hlater e)
    · rw [← List.cons_append, List.getLast?_append] at hd
      cases hmore : (braceNames s.opening s.closing 0 rest).getLast? with
      | none =>
        have hnil : rest = [] := by
          have hnone := List.getLast?_eq_none_iff.mp hmore
          rcases head?_braceNames s rest with h | ⟨-, h⟩
          · rw [hnone] at h
            exact List.head?_eq_none_iff.mp h.symm
          · rw [hnone] at h
            cases h
        subst hnil
        refine .inr ?_
        rw [List.append_nil]
        simpa [hmore] using hd
      | some e =>
        obtain rfl : e = d := by simpa [hmore] using hd
        exact (ih e hmore).imp id (hlater e)

end Rewriting

end RouteDoc
