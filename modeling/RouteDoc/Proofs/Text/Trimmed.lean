import Mathlib.Data.List.Basic
import Mathlib.Data.List.TakeWhile
import RouteDoc.Text.Blank

/-!
# Trimmed text

* `trimList_eq_nil`, `trim_eq_empty`: nothing is left of white space, and only of it;
* `dropEndWhile_append_of_not`, `dropEndWhile_eq_self`: what stands before another
  character stays, and a text that ends in one stays as it is;
* `IsTrimmed`: texts with no white space at either end; trimming gives one
  (`isTrimmed_trimList`), namely what stands between white space (`trimList_append`).
-/

namespace RouteDoc.Text

theorem dropEndWhile_eq_nil {p : Char → Bool} {cs : List Char} :
    dropEndWhile p cs = [] ↔ ∀ c ∈ cs, p c = true := by
  simp [dropEndWhile, List.dropWhile_eq_nil_iff]

theorem trimList_eq_nil {cs : List Char} : trimList cs = [] ↔ ∀ c ∈ cs, isSpace c = true := by
  rw [trimList, trimEnd, dropEndWhile_eq_nil, trimStart]
  constructor
  · intro hrest c hc
    rw [← List.takeWhile_append_dropWhile (p := isSpace) (l := cs)] at hc
    rcases List.mem_append.mp hc with hfront | hback
    · exact List.mem_takeWhile_imp hfront
    · exact hrest c hback
  · intro hall c hc
    exact hall c ((List.dropWhile_sublist isSpace).mem hc)

theorem trim_eq_empty {s : String} : trim s = "" ↔ isBlankText s = true := by
  have hnil : trim s = "" ↔ trimList s.toList = [] := by
    rw [trim, ← String.toList_inj]
    simp
  rw [hnil, trimList_eq_nil, isBlankText, List.all_eq_true]

/-! ## Texts with another character in them -/

theorem dropWhile_append_of_not {p : Char → Bool} {c : Char} (hc : p c = false) (cs rest : List Char) :
    (cs ++ c :: rest).dropWhile p = cs.dropWhile p ++ c :: rest := by
  induction cs with
  | nil => rw [List.nil_append, List.dropWhile_cons_of_neg (by simp [hc])]; rfl
  | cons d cs ih =>
    by_cases hd : p d = true
    · rw [List.cons_append, List.dropWhile_cons_of_pos hd, List.dropWhile_cons_of_pos hd, ih]
    · rw [List.cons_append, List.dropWhile_cons_of_neg hd, List.dropWhile_cons_of_neg hd]
      rfl

theorem dropEndWhile_append_of_not {p : Char → Bool} {c : Char} (hc : p c = false)
    (cs rest : List Char) :
    dropEndWhile p (cs ++ c :: rest) = cs ++ c :: dropEndWhile p rest := by
  have hreverse : (cs ++ c :: rest).reverse = rest.reverse ++ c :: cs.reverse := by simp
  rw [dropEndWhile, hreverse, dropWhile_append_of_not hc, List.reverse_append, List.reverse_cons,
    List.reverse_reverse, ← dropEndWhile, List.append_assoc]
  rfl

/-- What was left out at the end. -/
theorem exists_dropEndWhile (p : Char → Bool) (cs : List Char) :
    ∃ back, cs = dropEndWhile p cs ++ back ∧ ∀ c ∈ back, p c = true := by
  refine ⟨(cs.reverse.takeWhile p).reverse, ?_, fun c hc => ?_⟩
  · rw [dropEndWhile, ← List.reverse_append, List.takeWhile_append_dropWhile, List.reverse_reverse]
  · exact List.mem_takeWhile_imp (List.mem_reverse.mp hc)

theorem dropEndWhile_prefix (p : Char → Bool) (cs : List Char) : dropEndWhile p cs <+: cs := by
  obtain ⟨back, hback, -⟩ := exists_dropEndWhile p cs
  exact ⟨back, hback.symm⟩

theorem getLast?_dropEndWhile {p : Char → Bool} {cs : List Char} {c : Char}
    (h : (dropEndWhile p cs).getLast? = some c) : p c = false := by
  have hhead := List.head?_dropWhile_not p cs.reverse
  rw [dropEndWhile, List.getLast?_reverse] at h
  rwa [h] at hhead

theorem dropEndWhile_eq_self {p : Char → Bool} {cs : List Char} :
    dropEndWhile p cs = cs ↔ ∀ c ∈ cs.getLast?, p c = false := by
  constructor
  · intro h c hc
    rw [← h] at hc
    exact getLast?_dropEndWhile hc
  · intro h
    rcases List.eq_nil_or_concat' cs with rfl | ⟨front, c, rfl⟩
    · rfl
    · rw [dropEndWhile_append_of_not (h c (by simp))]
      rfl

/-! ## Both ends -/

/-- Whether nothing but white space is there. -/
def isBlank (cs : List Char) : Bool := cs.all isSpace

theorem isBlank_iff {cs : List Char} : isBlank cs = true ↔ ∀ c ∈ cs, isSpace c = true :=
  List.all_eq_true

theorem isBlank_append {cs ds : List Char} :
    isBlank (cs ++ ds) = true ↔ isBlank cs = true ∧ isBlank ds = true := by
  simp [isBlank]

theorem trimList_eq_nil_iff_isBlank {cs : List Char} : trimList cs = [] ↔ isBlank cs = true :=
  trimList_eq_nil.trans isBlank_iff.symm

/-- Where there is another character, the first one stands after white space. -/
theorem exists_of_not_isBlank {cs : List Char} (h : isBlank cs = false) :
    ∃ blanks c rest, cs = blanks ++ c :: rest ∧ isBlank blanks = true ∧ isSpace c = false := by
  cases hrest : cs.dropWhile isSpace with
  | nil =>
    have hblank := isBlank_iff.mpr (List.dropWhile_eq_nil_iff.mp hrest)
    exact absurd (h.symm.trans hblank) Bool.false_ne_true
  | cons c rest =>
    have hc := List.head?_dropWhile_not isSpace cs
    rw [hrest] at hc
    refine ⟨cs.takeWhile isSpace, c, rest, ?_, isBlank_iff.mpr fun c => List.mem_takeWhile_imp, hc⟩
    rw [← hrest, List.takeWhile_append_dropWhile]

/-- No white space is at either end. -/
structure IsTrimmed (cs : List Char) : Prop where
  head : ∀ c ∈ cs.head?, isSpace c = false
  last : ∀ c ∈ cs.getLast?, isSpace c = false

theorem isTrimmed_trimList (cs : List Char) : IsTrimmed (trimList cs) where
  head c hc := by
    obtain ⟨rest, hrest⟩ := List.head?_eq_some_iff.mp hc
    obtain ⟨back, hback⟩ := dropEndWhile_prefix isSpace (trimStart cs)
    have hstart : (trimStart cs).head? = some c := by
      rw [← hback]
      change (trimList cs ++ back).head? = some c
      rw [hrest]
      rfl
    have hnot := List.head?_dropWhile_not isSpace cs
    rw [trimStart] at hstart
    rwa [hstart] at hnot
  last c hc := getLast?_dropEndWhile hc

/-- Trimming cuts white space off at both ends. -/
theorem exists_trimList (cs : List Char) : ∃ front back, cs = front ++ (trimList cs ++ back) ∧
    isBlank front = true ∧ isBlank back = true := by
  obtain ⟨back, hback, hspace⟩ := exists_dropEndWhile isSpace (trimStart cs)
  refine ⟨cs.takeWhile isSpace, back, ?_, isBlank_iff.mpr fun c => List.mem_takeWhile_imp,
    isBlank_iff.mpr hspace⟩
  change cs = _ ++ (dropEndWhile isSpace (trimStart cs) ++ back)
  rw [← hback, trimStart, List.takeWhile_append_dropWhile]

/-- What stands between white space is found by trimming. -/
theorem trimList_append {front cs back : List Char} (hfront : isBlank front = true)
    (h : IsTrimmed cs) (hback : isBlank back = true) : trimList (front ++ (cs ++ back)) = cs := by
  have hstart : trimStart (front ++ (cs ++ back)) = trimStart (cs ++ back) :=
    List.dropWhile_append_of_pos (isBlank_iff.mp hfront)
  have hend : dropEndWhile isSpace back = [] := dropEndWhile_eq_nil.mpr (isBlank_iff.mp hback)
  cases cs with
  | nil => exact trimList_eq_nil_iff_isBlank.mpr (isBlank_append.mpr ⟨hfront, hback⟩)
  | cons c cs =>
    have hkeep : trimStart (c :: cs ++ back) = c :: cs ++ back :=
      List.dropWhile_cons_of_neg (by simp [h.head c rfl])
    rw [trimList, hstart, hkeep]
    rcases List.eq_nil_or_concat' (c :: cs) with hnil | ⟨init, last, hcs⟩
    · cases hnil
    · rw [hcs] at h ⊢
      rw [trimEnd, List.append_assoc, List.singleton_append,
        dropEndWhile_append_of_not (h.last last (by simp)), hend]

theorem IsTrimmed.trimList_eq {cs : List Char} (h : IsTrimmed cs) : trimList cs = cs := by
  have hself : trimList ([] ++ (cs ++ [])) = cs := trimList_append rfl h rfl
  rwa [List.append_nil] at hself

theorem trimList_trimList (cs : List Char) : trimList (trimList cs) = trimList cs :=
  (isTrimmed_trimList cs).trimList_eq

end RouteDoc.Text
