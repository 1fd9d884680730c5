import RouteDoc.Proofs.Console.Printed
import RouteDoc.Proofs.Text.Lowered

/-!
# Text between tags

Between tags a text loses backslashes before brackets, and names of emoji become emoji.

* `Emojied`: a text and what is left of it once emoji stand for some of their names;
* `exists_printed_of_emojied`: what is left of a calm text between tags;
* `of_withEmoji_freeBrackets_eq`: if that is the text itself, then neither step did anything.
-/

namespace RouteDoc.Console

open Json (Calm isInk isMark)

/-! ## Emoji -/

theorem emojiEntry?_eq_some {entry name symbols : List Char}
    (h : emojiEntry? entry = some (name, symbols)) :
    (∀ c ∈ name, isInName c = true) ∧ ∀ c ∈ symbols, isSymbol c = true := by
  unfold emojiEntry? at h
  dsimp only at h
  split at h
  · rename_i hwell
    obtain ⟨rfl, rfl⟩ := Prod.mk.inj (Option.some.inj h)
    exact ⟨List.all_eq_true.mp ((Bool.and_eq_true _ _).mp hwell).1,
      List.all_eq_true.mp ((Bool.and_eq_true _ _).mp hwell).2⟩
  · cases h

/-- Names of emoji have no marks, and their emoji are made of symbols. -/
theorem emoji?_eq_some {name symbols : List Char} (h : emoji? name = some symbols) :
    (∀ c ∈ name, isInName c = true) ∧ ∀ c ∈ symbols, isSymbol c = true := by
  obtain ⟨⟨name', symbols'⟩, hfind, rfl⟩ := Option.map_eq_some_iff.mp h
  obtain rfl : name' = name := by simpa using List.find?_some hfind
  obtain ⟨entry, -, hentry⟩ := List.mem_filterMap.mp (List.mem_of_find?_eq_some hfind)
  exact emojiEntry?_eq_some hentry

/-- A backslash stays in lower case. -/
theorem slash_mem_lowerList {cs : List Char} (h : '\\' ∈ cs) : '\\' ∈ Text.lowerList cs := by
  have hfrom : ∀ before, '\\' ∈ Text.lowerFrom before cs := by
    induction cs with
    | nil => cases h
    | cons c cs ih =>
      intro before
      rw [Text.lowerFrom, List.mem_append]
      rcases List.mem_cons.mp h with rfl | h
      · exact .inl List.mem_cons_self
      · exact .inr (ih h _)
  exact hfrom []

/-- A name keeps its backslashes without the mark of a variant. -/
theorem variantOf_spec (name : List Char) :
    ('\\' ∈ name → '\\' ∈ (variantOf name).1) ∧ ∀ c ∈ (variantOf name).2, isSymbol c = true := by
  have hcut : ∀ {ending : String} {short : List Char}, '\\' ∉ ending.toList →
      (if ending.toList.isSuffixOf name then some (name.take (name.length - ending.length))
        else none) = some short → '\\' ∈ name → '\\' ∈ short := by
    intro ending short hending h hmem
    split at h
    · rename_i hsuffix
      obtain ⟨front, rfl⟩ := List.isSuffixOf_iff_suffix.mp hsuffix
      obtain rfl := Option.some.inj h
      rw [← String.length_toList, List.length_append, Nat.add_sub_cancel, List.take_left]
      exact (List.mem_append.mp hmem).resolve_right hending
    · cases h
  unfold variantOf
  dsimp only
  split
  · rename_i hemoji
    exact ⟨hcut (by decide) hemoji, List.forall_mem_singleton.mpr (by decide)⟩
  · rename_i htext _
    exact ⟨hcut (by decide) htext, List.forall_mem_singleton.mpr (by decide)⟩
  · exact ⟨id, nofun⟩

/-- Between colons stands the name of an emoji, without a backslash, or the text stays. -/
theorem emojiOr_cases (name : List Char) : emojiOr name = ':' :: name ++ [':'] ∨
    '\\' ∉ name ∧ ∀ c ∈ emojiOr name, isSymbol c = true := by
  obtain ⟨hslash, hvariant⟩ := variantOf_spec name
  rw [emojiOr]
  cases hemoji : emoji? (Text.lowerList (variantOf name).1) with
  | none => exact .inl rfl
  | some symbols =>
    obtain ⟨hname, hsymbols⟩ := emoji?_eq_some hemoji
    refine .inr ⟨fun hmem => ?_, fun c hc => ?_⟩
    · exact absurd (hname _ (slash_mem_lowerList (hslash hmem))) (by decide)
    · exact (List.mem_append.mp hc).elim (hsymbols c) (hvariant c)

/-- What is left of a text once emoji stand for some of their names; the flag tells
whether there is one. -/
inductive Emojied : Bool → List Char → List Char → Prop
  | nil : Emojied false [] []
  | keep {changed : Bool} (c : Char) {cs es : List Char} (h : Emojied changed cs es) :
      Emojied changed (c :: cs) (c :: es)
  | emoji {changed : Bool} {name symbols cs es : List Char} (hname : '\\' ∉ name)
      (hsymbols : ∀ c ∈ symbols, isSymbol c = true) (h : Emojied changed cs es) :
      Emojied true (':' :: (name ++ ':' :: cs)) (symbols ++ es)

theorem Emojied.keepAll {changed : Bool} {cs es : List Char} (h : Emojied changed cs es)
    (front : List Char) : Emojied changed (front ++ cs) (front ++ es) := by
  induction front with
  | nil => exact h
  | cons c front ih => exact .keep c ih

theorem colonName?_eq_some {cs name : List Char} (h : colonName? cs = some name) :
    ∃ rest, cs = name ++ ':' :: rest := by
  unfold colonName? at h
  dsimp only at h
  split at h
  · rename_i hcolon
    obtain ⟨rest, hrest⟩ := List.head?_eq_some_iff.mp (beq_iff_eq.mp hcolon)
    obtain rfl := Option.some.inj h
    refine ⟨rest, ?_⟩
    rw [← hrest, List.prefix_iff_eq_append.mp (List.takeWhile_prefix _)]
  · cases h

/-- Putting in emoji does as `Emojied` says. -/
theorem exists_emojied (skip : Nat) (cs : List Char) :
    ∃ changed, Emojied changed (cs.drop skip) (withEmojiFrom skip cs) := by
  fun_induction withEmojiFrom skip cs with
  | case1 skip =>
    rw [List.drop_nil]
    exact ⟨_, .nil⟩
  | case2 skip c cs ih => exact ih
  | case3 c cs name hname ih =>
    obtain ⟨changed, ih⟩ := ih
    split at hname
    · rename_i hcolon
      obtain rfl := beq_iff_eq.mp hcolon
      obtain ⟨rest, rfl⟩ := colonName?_eq_some hname
      have hdrop : (name ++ ':' :: rest).drop (name.length + 1) = rest := by
        rw [← List.drop_drop, List.drop_left]
        rfl
      rw [hdrop] at ih
      rcases emojiOr_cases name with hsame | ⟨hslash, hsymbols⟩
      · rw [hsame, List.drop_zero]
        have hkept := ih.keepAll (':' :: name ++ [':'])
        rw [List.append_assoc] at hkept
        exact ⟨changed, hkept⟩
      · exact ⟨true, .emoji hslash hsymbols ih⟩
    · cases hname
  | case4 c cs hnone ih =>
    obtain ⟨changed, ih⟩ := ih
    exact ⟨changed, .keep c ih⟩

/-- Without emoji a text stays as it is. -/
theorem Emojied.eq {changed : Bool} {cs es : List Char} (h : Emojied changed cs es)
    (hchanged : changed = false) : es = cs := by
  induction h with
  | nil => rfl
  | keep c _ ih => rw [ih hchanged]
  | emoji => cases hchanged

/-- Emoji bring no backslashes and take none away. -/
theorem Emojied.count_slash {changed : Bool} {cs es : List Char} (h : Emojied changed cs es) :
    es.count '\\' = cs.count '\\' := by
  induction h with
  | nil => rfl
  | keep c _ ih => rw [List.count_cons, List.count_cons, ih]
  | emoji hname hsymbols _ ih =>
    have hnone : '\\' ∉ _ := fun hmem => (isSymbol_spec (hsymbols _ hmem)).2.1 rfl
    rw [List.count_append, List.count_eq_zero.mpr hnone, ih, List.count_cons, List.count_append,
      List.count_eq_zero.mpr hname, List.count_cons]
    simp

theorem Emojied.exists_of_cons {changed : Bool} {c : Char} {cs es : List Char} (hc : c ≠ ':')
    (h : Emojied changed (c :: cs) es) : ∃ rest, es = c :: rest ∧ Emojied changed cs rest := by
  cases h with
  | keep _ h => exact ⟨_, rfl, h⟩
  | emoji => exact absurd rfl hc

/-- Without a colon nothing is the name of an emoji. -/
theorem Emojied.exists_of_append {changed : Bool} {front cs es : List Char} (hfront : ':' ∉ front)
    (h : Emojied changed (front ++ cs) es) :
    ∃ rest, es = front ++ rest ∧ Emojied changed cs rest := by
  induction front generalizing es with
  | nil => exact ⟨es, rfl, h⟩
  | cons c front ih =>
    rw [List.mem_cons, not_or] at hfront
    obtain ⟨rest, rfl, hrest⟩ := h.exists_of_cons (Ne.symm hfront.1)
    obtain ⟨rest', rfl, hrest'⟩ := ih hfront.2 hrest
    exact ⟨rest', rfl, hrest'⟩

/-! ## Brackets behind backslashes -/

theorem freeBrackets_cons {c : Char} (hslash : c ≠ '\\') (cs : List Char) :
    freeBrackets (c :: cs) = c :: freeBrackets cs := by
  rw [freeBrackets.eq_def]
  split
  · rename_i heq
    exact absurd (List.cons.inj heq).1 hslash
  · rename_i heq
    obtain ⟨rfl, rfl⟩ := List.cons.inj heq
    rfl
  · rename_i heq
    cases heq

theorem freeBrackets_append {front : List Char} (hslash : '\\' ∉ front) (cs : List Char) :
    freeBrackets (front ++ cs) = front ++ freeBrackets cs := by
  induction front with
  | nil => rfl
  | cons c front ih =>
    rw [List.mem_cons, not_or] at hslash
    rw [List.cons_append, freeBrackets_cons (Ne.symm hslash.1), ih hslash.2, List.cons_append]

/-- A backslash stays unless a bracket follows it. -/
theorem freeBrackets_slash {cs : List Char} (hcs : cs.head? ≠ some '[') :
    freeBrackets ('\\' :: cs) = '\\' :: freeBrackets cs := by
  rw [freeBrackets.eq_def]
  split
  · rename_i heq
    exact absurd (congrArg List.head? (List.cons.inj heq).2) hcs
  · rename_i heq
    obtain ⟨rfl, rfl⟩ := List.cons.inj heq
    rfl
  · rename_i heq
    cases heq

theorem head?_ne_of_plainEscape {e : Char} (he : (Json.plainEscape e).isSome) (cs : List Char) :
    (e :: cs).head? ≠ some '[' := by
  rintro h
  rw [Option.some.inj h] at he
  cases he

/-- Where a bracket follows a backslash one is lost; otherwise the text stays as it is. -/
theorem freeBrackets_cases (t : List Char) :
    ['\\', '['] <:+: t ∧ (freeBrackets t).count '\\' < t.count '\\' ∨
      ¬ ['\\', '['] <:+: t ∧ freeBrackets t = t := by
  fun_induction freeBrackets t with
  | case1 cs ih =>
    refine .inl ⟨⟨[], cs, rfl⟩, ?_⟩
    have hle : (freeBrackets cs).count '\\' ≤ cs.count '\\' :=
      ih.elim (fun h => Nat.le_of_lt h.2) fun h => Nat.le_of_eq (congrArg _ h.2)
    simp only [List.count_cons]
    simpa using Nat.lt_succ_of_le hle
  | case2 c cs hnot ih =>
    have hfront : ¬ ['\\', '['] <+: c :: cs := by
      rintro ⟨rest, hrest⟩
      obtain ⟨rfl, hcs⟩ := List.cons.inj hrest
      exact hnot rest rfl hcs.symm
    refine ih.imp (fun h => ⟨h.1.trans (List.suffix_cons c cs).isInfix, ?_⟩) fun h => ⟨?_, ?_⟩
    · rw [List.count_cons, List.count_cons]
      exact Nat.add_lt_add_right h.2 _
    · rw [List.infix_cons_iff, not_or]
      exact ⟨hfront, h.1⟩
    · rw [h.2]
  | case3 => exact .inr ⟨by simp, rfl⟩

/-- If a text stays as it is between tags, then no bracket follows a backslash, and no
emoji is named. -/
theorem of_withEmoji_freeBrackets_eq {t : List Char} (h : withEmoji (freeBrackets t) = t) :
    ¬ ['\\', '['] <:+: t ∧ withEmoji t = t := by
  obtain ⟨changed, hemojied⟩ := exists_emojied 0 (freeBrackets t)
  have hcount := hemojied.count_slash
  rw [List.drop_zero] at hcount
  rw [← withEmoji, h] at hcount
  rcases freeBrackets_cases t with ⟨-, hlt⟩ | ⟨hnot, hfree⟩
  · exact absurd hcount (Nat.ne_of_gt hlt)
  · exact ⟨hnot, by rwa [hfree] at h⟩

/-- What has no backslash stands at the start of a calm text already. -/
theorem exists_of_freeBrackets_eq {t front cs : List Char} (h : Calm t) (hslash : '\\' ∉ front)
    (heq : freeBrackets t = front ++ cs) : ∃ u, t = front ++ u ∧ Calm u ∧ freeBrackets u = cs := by
  induction front generalizing t with
  | nil => exact ⟨t, rfl, h, heq⟩
  | cons d front ih =>
    rw [List.mem_cons, not_or] at hslash
    cases h with
    | nil => cases heq
    | plain hc _ h =>
      rw [freeBrackets_cons hc, List.cons_append, List.cons.injEq] at heq
      obtain ⟨rfl, heq⟩ := heq
      obtain ⟨u, rfl, hu⟩ := ih h hslash.2 heq
      exact ⟨u, rfl, hu⟩
    | escape he =>
      rw [freeBrackets_slash (head?_ne_of_plainEscape he _)] at heq
      exact absurd (List.cons.inj heq).1 hslash.1
    | code =>
      rw [freeBrackets_slash (by simp)] at heq
      exact absurd (List.cons.inj heq).1 hslash.1

/-- What is left of a calm text between tags. -/
theorem exists_printed_of_emojied {t es : List Char} {changed : Bool} (h : Calm t)
    (hes : Emojied changed (freeBrackets t) es) : ∃ changed', Printed changed' t es := by
  induction hlength : t.length using Nat.strong_induction_on generalizing t es changed with
  | h n ih =>
    subst hlength
    have next : ∀ {u es changed}, u.length < t.length → Calm u →
        Emojied changed (freeBrackets u) es → ∃ changed', Printed changed' u es :=
      fun hlt hu hes => ih _ hlt hu hes rfl
    clear ih
    cases h with
    | nil =>
      cases hes
      exact ⟨_, .nil⟩
    | @plain c t hslash _ h =>
      rw [freeBrackets_cons hslash] at hes
      generalize hfree : freeBrackets t = free at hes
      cases hes with
      | keep _ hes =>
        obtain ⟨changed', hprinted⟩ := next (Nat.lt_succ_self _) h (hfree ▸ hes)
        exact ⟨_, .plain hslash hprinted⟩
      | @emoji _ name symbols cs es hname hsymbols hes =>
        have hfront : '\\' ∉ name ++ [':'] := by simp [hname]
        have hsplit : freeBrackets t = (name ++ [':']) ++ cs := by rw [hfree]; simp
        obtain ⟨u, rfl, hu, rfl⟩ := exists_of_freeBrackets_eq h hfront hsplit
        obtain ⟨changed', hprinted⟩ := next (by simp only [List.length_cons, List.length_append]; omega) hu hes
        rw [List.append_assoc]
        exact ⟨true, .emoji hsymbols hprinted⟩
    | @escape e t he h =>
      rw [freeBrackets_slash (head?_ne_of_plainEscape he t)] at hes
      obtain ⟨es, rfl, hrest⟩ := hes.exists_of_cons (by decide)
      by_cases hslash : e = '\\'
      · subst hslash
        by_cases hbracket : t.head? = some '['
        · -- The second backslash is lost.
          obtain ⟨t, rfl⟩ := List.head?_eq_some_iff.mp hbracket
          obtain ⟨es, rfl, hlast⟩ := hrest.exists_of_cons (by decide)
          cases h with
          | plain _ _ h =>
            obtain ⟨changed', hprinted⟩ := next (by simp only [List.length_cons]; omega) h hlast
            exact ⟨true, .bracket hprinted⟩
        · rw [freeBrackets_slash hbracket] at hrest
          obtain ⟨es, rfl, hlast⟩ := hrest.exists_of_cons (by decide)
          obtain ⟨changed', hprinted⟩ := next (by simp only [List.length_cons]; omega) h hlast
          exact ⟨_, .escape he hprinted⟩
      · have hcolon : e ≠ ':' := by
          rintro rfl
          cases he
        rw [freeBrackets_cons hslash] at hrest
        obtain ⟨es, rfl, hlast⟩ := hrest.exists_of_cons hcolon
        obtain ⟨changed', hprinted⟩ := next (by simp only [List.length_cons]; omega) h hlast
        exact ⟨_, .escape he hprinted⟩
    | @code a b c d t k hk hmark h =>
      have hfree : freeBrackets ('u' :: a :: b :: c :: d :: t) =
          ['u', a, b, c, d] ++ freeBrackets t :=
        freeBrackets_append (Json.not_mem_code hk (by decide) (by decide)) t
      rw [freeBrackets_slash (by simp), hfree] at hes
      obtain ⟨es, rfl, hrest⟩ := hes.exists_of_cons (by decide)
      obtain ⟨es, rfl, hlast⟩ := hrest.exists_of_append
        (Json.not_mem_code hk (by decide) (by decide))
      obtain ⟨changed', hprinted⟩ := next (by simp only [List.length_cons]; omega) h hlast
      exact ⟨_, .code hk hmark hprinted⟩

end RouteDoc.Console
