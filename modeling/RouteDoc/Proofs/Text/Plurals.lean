import Mathlib.Data.List.Basic
import RouteDoc.Proofs.Text.Lowered
import RouteDoc.Text.Plural

/-!
# Singular and plural

The rules look at how a word ends, without regard to case. What one of them cuts off or puts
behind a word decides which of them fits the outcome.

* `EndsIn`: how a word ends;
* `toList_singularize`, `pluralize_cases`: the rules;
* `singularize_eq_self_iff`: the words that are singular already;
* `pluralize_pluralize`, `singularize_singularize`: taking a form again changes nothing;
* `singularize_pluralize`: the words whose plural has another singular.
-/

namespace RouteDoc.Text

/-! ## Endings -/

/-- A word ends in some letters, be they small or capital. -/
def EndsIn (e : String) (cs : List Char) : Prop := e.toList <:+ cs.map Char.toLower

instance (e : String) (cs : List Char) : Decidable (EndsIn e cs) :=
  inferInstanceAs (Decidable (_ <:+ _))

section

variable {e e' : String} {cs : List Char}

/-- Of two endings the shorter one is the end of the other. -/
theorem EndsIn.suffix (h : EndsIn e cs) (h' : EndsIn e' cs)
    (hlength : e.toList.length ≤ e'.toList.length) : e.toList <:+ e'.toList :=
  List.suffix_of_suffix_length_le h h' hlength

/-- An ending that is not the end of a longer one excludes that. -/
theorem EndsIn.not (h : EndsIn e cs)
    (hne : e.toList.length ≤ e'.toList.length ∧ ¬e.toList <:+ e'.toList) : ¬EndsIn e' cs :=
  fun h' => hne.2 (h.suffix h' hne.1)

theorem EndsIn.length_le (h : EndsIn e cs) : e.toList.length ≤ cs.length := by
  have hle := List.IsSuffix.length_le h
  rwa [List.length_map] at hle

theorem endsIn_append (cs : List Char) {ds : List Char} (h : EndsIn e ds) : EndsIn e (cs ++ ds) := by
  rw [EndsIn, List.map_append]
  exact h.trans (List.suffix_append ..)

/-- What stands before an ending, once that is cut off. -/
theorem endsIn_take_iff (h : EndsIn e cs) :
    EndsIn e' (cs.take (cs.length - e.toList.length)) ↔ EndsIn (e' ++ e) cs := by
  have hcs := List.suffix_iff_eq_append.mp h
  rw [List.length_map, ← List.map_take] at hcs
  rw [EndsIn, EndsIn, ← hcs, String.toList_append, List.suffix_append_self_iff]

end

theorem endsWithAny_lowerList {es : List String}
    (hes : ∀ e ∈ es, ∀ d ∈ e.toList, isOwnLetter d = true) (cs : List Char) :
    endsWithAny es (lowerList cs) = true ↔ ∃ e ∈ es, EndsIn e cs := by
  simp only [endsWithAny, List.any_eq_true, List.isSuffixOf_iff_suffix]
  exact exists_congr fun e => and_congr_right fun he => suffix_lowerList_iff (hes e he)

theorem getLast?_lowerList (cs : List Char) :
    (lowerList cs).getLast? == some 's' ↔ EndsIn "s" cs := by
  rw [beq_iff_eq, List.getLast?_eq_some_iff, EndsIn, ← suffix_lowerList_iff (by decide)]
  exact exists_congr fun _ => eq_comm

/-! ## Plurals -/

/-- A word in `s` is plural already; another one gains an `s` at the end. -/
theorem pluralize_cases (w : String) : EndsIn "s" w.toList ∧ pluralize w = w ∨
    ∃ stem, (pluralize w).toList = stem ++ ['s'] := by
  simp only [pluralize]
  split
  · rename_i hs
    exact .inl ⟨(getLast?_lowerList _).mp hs, rfl⟩
  · refine .inr ?_
    split
    · exact ⟨w.toList.dropLast ++ ['i', 'e'], by simp⟩
    · split
      · exact ⟨w.toList ++ ['e'], by simp⟩
      · exact ⟨w.toList, by simp⟩

theorem endsIn_pluralize (w : String) : EndsIn "s" (pluralize w).toList := by
  rcases pluralize_cases w with ⟨hs, heq⟩ | ⟨stem, heq⟩
  · rwa [heq]
  · rw [heq]
    exact endsIn_append stem (by decide)

theorem pluralize_of_endsIn {w : String} (h : EndsIn "s" w.toList) : pluralize w = w :=
  if_pos ((getLast?_lowerList _).mpr h)

theorem pluralize_pluralize (w : String) : pluralize (pluralize w) = pluralize w :=
  pluralize_of_endsIn (endsIn_pluralize w)

/-! ## Singulars -/

/-- The singular of a word by its letters. -/
theorem toList_singularize (w : String) : (singularize w).toList =
    if EndsIn "ies" w.toList ∧ 3 < w.toList.length then
      w.toList.take (w.toList.length - 3) ++ ['y']
    else if ∃ e ∈ ["sses", "xes", "zes", "ches", "shes"], EndsIn e w.toList then
      w.toList.take (w.toList.length - 2)
    else if EndsIn "s" w.toList ∧ ¬EndsIn "ss" w.toList ∧ 1 < w.toList.length then
      w.toList.take (w.toList.length - 1)
    else w.toList := by
  have hies := @endsWithAny_lowerList ["ies"] (by decide) w.toList
  have hss := @endsWithAny_lowerList ["ss"] (by decide) w.toList
  have hes := @endsWithAny_lowerList ["sses", "xes", "zes", "ches", "shes"] (by decide) w.toList
  simp only [List.mem_singleton, exists_eq_left] at hies hss
  simp only [singularize]
  simp only [← hies, ← hes, ← getLast?_lowerList, ← hss, Bool.and_eq_true, decide_eq_true_eq,
    Bool.not_eq_true', Bool.not_eq_true, and_assoc]
  split
  · simp
  · split
    · simp
    · split
      · simp
      · rfl

/-- A word is its own singular unless it ends in a single `s` behind a letter. -/
theorem singularize_eq_self_iff {w : String} : singularize w = w ↔
    ¬(EndsIn "s" w.toList ∧ ¬EndsIn "ss" w.toList ∧ 2 ≤ w.toList.length) := by
  rw [← String.toList_inj, toList_singularize]
  split
  · rename_i hies
    refine iff_of_false (fun heq => ?_) (not_not_intro ⟨?_, ?_, by omega⟩)
    · have hy : EndsIn "y" w.toList := by
        rw [← heq]
        exact endsIn_append _ (by decide)
      exact hy.not (by decide) hies.1
    · exact List.IsSuffix.trans (by decide) hies.1
    · exact fun hss => hss.not (by decide) hies.1
  · split
    · rename_i hes
      obtain ⟨e, he, hend⟩ := hes
      have hall : ∀ e ∈ ["sses", "xes", "zes", "ches", "shes"], "s".toList <:+ e.toList ∧
          ("ss".toList.length ≤ e.toList.length ∧ ¬"ss".toList <:+ e.toList) ∧
          3 ≤ e.toList.length := by decide
      obtain ⟨hs, hss, hthree⟩ := hall e he
      have hle := hend.length_le
      refine iff_of_false (fun heq => ?_) (not_not_intro ⟨?_, ?_, by omega⟩)
      · have hshort := congrArg List.length heq
        rw [List.length_take] at hshort
        omega
      · exact List.IsSuffix.trans hs hend
      · exact fun h => h.not hss hend
    · split
      · rename_i hs
        refine iff_of_false (fun heq => ?_) (not_not_intro hs)
        have hshort := congrArg List.length heq
        rw [List.length_take] at hshort
        omega
      · rename_i hs
        exact iff_of_true rfl hs

theorem singularize_of_not_endsIn {w : String} (h : ¬EndsIn "s" w.toList) : singularize w = w :=
  singularize_eq_self_iff.mpr fun hs => h hs.1

theorem singularize_singularize (w : String) : singularize (singularize w) = singularize w := by
  have hw := toList_singularize w
  split at hw
  · -- A word in `y` is no plural.
    have hy : EndsIn "y" (singularize w).toList := by
      rw [hw]
      exact endsIn_append _ (by decide)
    exact singularize_of_not_endsIn (hy.not (by decide))
  · split at hw
    · -- Before `es` stands no `s`, or two of them.
      rename_i hes
      obtain ⟨e, he, hend⟩ := hes
      have hcut : ∀ e ∈ ["sses", "xes", "zes", "ches", "shes"],
          ∃ stem ∈ ["ss", "x", "z", "ch", "sh"], e = stem ++ "es" := by decide
      obtain ⟨stem, hstem, rfl⟩ := hcut e he
      have hes : EndsIn "es" w.toList := by
        rw [EndsIn, String.toList_append] at hend
        exact (List.suffix_append _ _).trans hend
      have hrest : EndsIn stem (singularize w).toList := by
        rw [hw]
        exact (endsIn_take_iff hes).mpr hend
      have hstems : ∀ stem ∈ ["ss", "x", "z", "ch", "sh"], stem = "ss" ∨
          "s".toList.length ≤ stem.toList.length ∧ ¬"s".toList <:+ stem.toList := by decide
      rcases hstems stem hstem with rfl | hs
      · exact singularize_eq_self_iff.mpr fun h => h.2.1 hrest
      · exact singularize_of_not_endsIn fun h => h.not hs hrest
    · split at hw
      · -- Before the `s` stands another letter.
        rename_i hs
        refine singularize_of_not_endsIn fun h => hs.2.1 ?_
        rw [hw] at h
        exact (endsIn_take_iff hs.1).mp h
      · rw [String.toList_inj.mp hw, String.toList_inj.mp hw]

/-! ## Singulars of plurals -/

section

variable {w : String} {cs : List Char}

/-- The plural of a word of small letters that does not end in `s`. -/
theorem pluralize_of_small (hw : ∀ c ∈ w.toList, 'a' ≤ c ∧ c ≤ 'z') (hs : ¬EndsIn "s" w.toList) :
    (∃ front c, w.toList = front ++ [c, 'y'] ∧
        (pluralize w).toList = front ++ [c] ++ "ies".toList) ∨
      (∃ e ∈ ["x", "z", "ch", "sh"], EndsIn e w.toList) ∧
        (pluralize w).toList = w.toList ++ "es".toList ∨
      (pluralize w).toList = w.toList ++ "s".toList := by
  have hes : endsWithAny ["s", "x", "z", "ch", "sh"] (lowerList w.toList) = true ↔
      ∃ e ∈ ["x", "z", "ch", "sh"], EndsIn e w.toList := by
    simp [@endsWithAny_lowerList ["s", "x", "z", "ch", "sh"] (by decide), hs]
  have hnot : ((lowerList w.toList).getLast? == some 's') = false :=
    Bool.eq_false_iff.mpr (mt (getLast?_lowerList _).mp hs)
  simp only [pluralize, hnot, Bool.false_eq_true, if_false]
  split
  · rename_i hy
    rw [lowerList_of_small hw] at hy
    simp only [Bool.and_eq_true, beq_iff_eq, decide_eq_true_eq] at hy
    obtain ⟨⟨hlast, hlength⟩, -⟩ := hy
    obtain ⟨init, hinit⟩ := List.getLast?_eq_some_iff.mp hlast
    rcases List.eq_nil_or_concat' init with rfl | ⟨front, c, rfl⟩
    · rw [hinit] at hlength
      exact absurd hlength (by decide)
    · refine .inl ⟨front, c, ?_, ?_⟩
      · rw [hinit, List.append_assoc]
        rfl
      · rw [hinit]
        simp
  · split
    · rename_i hany
      exact .inr (.inl ⟨hes.mp hany, by simp⟩)
    · exact .inr (.inr (by simp))

theorem toList_singularize_ies (hw : w.toList = cs ++ "ies".toList) (hcs : cs ≠ []) :
    (singularize w).toList = cs ++ ['y'] := by
  have hpos := List.length_pos_iff.mpr hcs
  have hlength : w.toList.length = cs.length + 3 := by simp [hw]
  have hies : EndsIn "ies" w.toList := by
    rw [hw]
    exact endsIn_append cs (by decide)
  rw [toList_singularize, if_pos ⟨hies, by omega⟩, hw]
  simp

theorem toList_singularize_es (hw : w.toList = cs ++ "es".toList)
    (hcs : ∃ e ∈ ["x", "z", "ch", "sh"], EndsIn e cs) : (singularize w).toList = cs := by
  obtain ⟨e, he, hend⟩ := hcs
  have hall : ∀ e ∈ ["x", "z", "ch", "sh"],
      e ++ "es" ∈ ["sses", "xes", "zes", "ches", "shes"] ∧
        "ies".toList.length ≤ (e ++ "es").toList.length ∧
        ¬"ies".toList <:+ (e ++ "es").toList := by decide
  obtain ⟨hmem, hies⟩ := hall e he
  have hes : EndsIn (e ++ "es") w.toList := by
    rw [hw, EndsIn, String.toList_append, List.map_append]
    exact List.suffix_append_self_iff.mpr hend
  rw [toList_singularize, if_neg fun h => h.1.not hies hes, if_pos ⟨_, hmem, hes⟩, hw]
  simp

/-- The singular of a word with nothing but an `s` put behind it. -/
theorem toList_singularize_s_iff (hw : w.toList = cs ++ "s".toList) (hne : cs ≠ [])
    (hs : ¬EndsIn "s" cs) : (singularize w).toList = cs ↔
      (∀ e ∈ ["xe", "ze", "che", "she", "sse"], ¬EndsIn e cs) ∧
        ¬(EndsIn "ie" cs ∧ 3 ≤ cs.length) := by
  have hlength : w.toList.length = cs.length + 1 := by simp [hw]
  have hpos := List.length_pos_iff.mpr hne
  have hcut : ∀ e : String, EndsIn (e ++ "s") w.toList ↔ EndsIn e cs := by
    intro e
    rw [hw, EndsIn, String.toList_append, List.map_append]
    exact List.suffix_append_self_iff
  have hany : (∃ e ∈ ["sses", "xes", "zes", "ches", "shes"], EndsIn e w.toList) ↔
      ∃ e ∈ ["xe", "ze", "che", "she", "sse"], EndsIn e cs := by
    have hlist : ["sses", "xes", "zes", "ches", "shes"] =
        ["sse", "xe", "ze", "che", "she"].map (· ++ "s") := by decide
    have hperm : ∀ e, e ∈ ["sse", "xe", "ze", "che", "she"] ↔
        e ∈ ["xe", "ze", "che", "she", "sse"] := fun e => by simp; tauto
    simp only [hlist, List.mem_map, exists_exists_and_eq_and, hcut, hperm]
  rw [toList_singularize]
  split
  · -- The outcome ends in `y`, the word in `ie`.
    rename_i hies
    have hie := (hcut "ie").mp hies.1
    refine iff_of_false (fun heq => ?_) fun h => h.2 ⟨hie, by omega⟩
    have hy : EndsIn "y" cs := by
      rw [← heq]
      exact endsIn_append _ (by decide)
    exact hy.not (by decide) hie
  · rename_i hies
    split
    · -- The outcome is too short by a letter.
      rename_i hes
      obtain ⟨e, he, hend⟩ := hany.mp hes
      refine iff_of_false (fun heq => ?_) fun h => h.1 e he hend
      have hshort := congrArg List.length heq
      rw [List.length_take] at hshort
      omega
    · rename_i hes
      rw [if_pos ⟨(hcut "").mpr List.nil_suffix, mt (hcut "s").mp hs, by omega⟩]
      refine iff_of_true ?_ ⟨fun e he hend => hes (hany.mpr ⟨e, he, hend⟩), fun h => ?_⟩
      · rw [hw]
        simp
      · exact hies ⟨(hcut "ie").mpr h.1, by omega⟩

end

/-- Words that end in these letters are regular. -/
theorem regular_of_endsIn {e : String} {cs : List Char} (he : e ∈ ["s", "y", "x", "z", "ch", "sh"])
    (h : EndsIn e cs) : (∀ e' ∈ ["xe", "ze", "che", "she", "sse"], ¬EndsIn e' cs) ∧
      ¬(EndsIn "ie" cs ∧ 3 ≤ cs.length) := by
  have hall : ∀ e ∈ ["s", "y", "x", "z", "ch", "sh"],
      ∀ e' ∈ ["xe", "ze", "che", "she", "sse", "ie"],
        e.toList.length ≤ e'.toList.length ∧ ¬e.toList <:+ e'.toList := by decide
  have hne := hall e he
  exact ⟨fun e' he' => h.not (hne e' (List.mem_append_left ["ie"] he')),
    fun hie => h.not (hne "ie" (by decide)) hie.1⟩

/-- A plural is its own plural, and a singular its own singular. Among the words of small
letters the singular of the plural is the word itself, unless it ends in one of five endings
that the singular mistakes for that of a plural in `es`, in `ie` behind another letter, or in a
single `s` behind another letter. -/
theorem singularize_pluralize :
    (∀ w, pluralize (pluralize w) = pluralize w) ∧
    (∀ w, singularize (singularize w) = singularize w) ∧
    ∀ w : String, w ≠ "" → (∀ c ∈ w.toList, 'a' ≤ c ∧ c ≤ 'z') →
      (singularize (pluralize w) = w ↔
        (∀ e ∈ ["xe", "ze", "che", "she", "sse"], ¬e.toList <:+ w.toList) ∧
        ¬("ie".toList <:+ w.toList ∧ 3 ≤ w.length) ∧
        ¬("s".toList <:+ w.toList ∧ ¬"ss".toList <:+ w.toList ∧ 2 ≤ w.length)) := by
  refine ⟨pluralize_pluralize, singularize_singularize, fun w hne hw => ?_⟩
  have hends : ∀ e : String, e.toList <:+ w.toList ↔ EndsIn e w.toList := fun e => by
    rw [EndsIn, map_toLower_of_small hw]
  have hnil : w.toList ≠ [] := by simpa using hne
  simp only [hends, ← String.length_toList]
  by_cases hs : EndsIn "s" w.toList
  · obtain ⟨hes, hie⟩ := regular_of_endsIn (by decide) hs
    rw [pluralize_of_endsIn hs, singularize_eq_self_iff]
    exact ⟨fun h => ⟨hes, hie, h⟩, fun h => h.2.2⟩
  · have hsingle : ¬(EndsIn "s" w.toList ∧ ¬EndsIn "ss" w.toList ∧ 2 ≤ w.toList.length) :=
      fun h => hs h.1
    rw [← String.toList_inj, ← and_assoc, and_iff_left hsingle]
    rcases pluralize_of_small hw hs with ⟨front, c, hfront, hies⟩ | ⟨⟨e, he, hend⟩, hes⟩ | hgain
    · have hend : EndsIn "y" [c, 'y'] := endsIn_append [c] (by decide)
      have hy : EndsIn "y" w.toList := by
        rw [hfront]
        exact endsIn_append front hend
      refine iff_of_true ?_ (regular_of_endsIn (by decide) hy)
      rw [toList_singularize_ies hies (by simp), hfront, List.append_assoc]
      rfl
    · have hmem : ∀ e ∈ ["x", "z", "ch", "sh"], e ∈ ["s", "y", "x", "z", "ch", "sh"] := by decide
      exact iff_of_true (toList_singularize_es hes ⟨e, he, hend⟩)
        (regular_of_endsIn (hmem e he) hend)
    · exact toList_singularize_s_iff hgain hnil hs

theorem singularize_pluralize_movie :
    ("movie" ≠ "" ∧ ∀ c ∈ "movie".toList, 'a' ≤ c ∧ c ≤ 'z') ∧
      singularize (pluralize "movie") ≠ "movie" ∧
      ("category" ≠ "" ∧ ∀ c ∈ "category".toList, 'a' ≤ c ∧ c ≤ 'z') ∧
      singularize (pluralize "category") = "category" :=
  ⟨by decide, fun h =>
    ((singularize_pluralize.2.2 "movie" (by decide) (by decide)).mp h).2.1 (by decide),
    by decide, (singularize_pluralize.2.2 "category" (by decide) (by decide)).mpr (by decide)⟩

end RouteDoc.Text
