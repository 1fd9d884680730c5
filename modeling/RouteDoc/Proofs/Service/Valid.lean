import RouteDoc.Proofs.Service.Commas

/-!
# Replies that are valid

What comes of a reply that the strict reader takes as it is.

* `literal_dropFences`: what stands between quotes is still a text when the
  fences in it are dropped;
* `exists_turns_dropFences`: an object is still an object then;
* `hasPair_of_readReply`: an object is read from no reply without its braces;
* `readReply_of_read`: an object is read without the fences in its texts, and no
  other value is taken for one, unless braces stand in it.
-/

namespace RouteDoc.Service

open Json (Written Part Blanks isBlank isPlain IsAtom Literal Any blanks_nil)
open Text (Pattern Turns turns_nil turns_of_forall isSpace)

/-! ## Fences in texts -/

theorem hexValue_backtick : Json.hexValue '`' = none := by decide

/-- A hexadecimal digit is no backtick. -/
theorem ne_of_hexQuad {a b c d : Char} (h : (Json.hexQuad [a, b, c, d]).isSome) :
    a ≠ '`' ∧ b ≠ '`' ∧ c ≠ '`' ∧ d ≠ '`' := by
  refine ⟨?_, ?_, ?_, ?_⟩ <;>
  · rintro rfl
    simp [Json.hexQuad, hexValue_backtick] at h

/-- No fence begins at an escape or before it. -/
theorem dropFences_slash {skip : Nat} (after : Bool) {cs : List Char}
    (hskip : ∀ c ∈ ('\\' :: cs).take skip, c ≠ '\\') :
    dropFences skip after ('\\' :: cs) = '\\' :: dropFences 0 false cs := by
  have hmark : IsMark '\\' := by
    unfold IsMark
    decide
  cases skip with
  | zero => exact dropFences_append hmark after [] (Nat.zero_le _) cs
  | succ skip => exact absurd rfl (hskip '\\' List.mem_cons_self)

/-- What stands between quotes may stand there without its fences, too. -/
theorem literal_dropFences {cs : List Char} (h : Literal cs) {skip : Nat} (after : Bool)
    (hskip : ∀ c ∈ cs.take skip, c ≠ '\\') : Literal (dropFences skip after cs) := by
  induction h generalizing skip after with
  | nil =>
    rw [dropFences]
    exact .nil
  | @plain c cs hquote hslash hcontrol h ih =>
    cases skip with
    | succ skip =>
      rw [dropFences_succ]
      exact ih after fun d hd => hskip d (List.mem_cons_of_mem c hd)
    | zero =>
      cases hlength : fenceLength (c :: cs) with
      | succ n =>
        rw [dropFences_of_fence after hlength]
        refine ih true fun d hd => ?_
        have hmem : d ∈ (c :: cs).take (fenceLength (c :: cs)) := by
          rw [hlength]
          exact List.mem_cons_of_mem c hd
        exact ne_slash_of_mem_take hmem
      | zero =>
        rw [dropFences_of_no_fence after hlength]
        split
        · exact ih true fun d hd => absurd hd List.not_mem_nil
        · exact .plain hquote hslash hcontrol (ih false fun d hd => absurd hd List.not_mem_nil)
  | @escape e cs he h ih =>
    have hne : e ≠ '`' := by
      rintro rfl
      cases he
    rw [dropFences_slash after hskip, dropFences_cons hne]
    exact .escape he (ih false fun d hd => absurd hd List.not_mem_nil)
  | @code a b c d cs hd h ih =>
    obtain ⟨ha, hb, hc, hd'⟩ := ne_of_hexQuad hd
    rw [dropFences_slash after hskip, dropFences_cons (by decide), dropFences_cons ha,
      dropFences_cons hb, dropFences_cons hc, dropFences_cons hd']
    exact .code hd (ih false fun d hd => absurd hd List.not_mem_nil)

section Written

variable {t t' b : List Char}

theorem turns_fences_cons {c : Char} (hc : c ≠ '`') (ht : Turns (dropFences 0 false) t t') :
    Turns (dropFences 0 false) (c :: t) (c :: t') :=
  ht.cons (dropFences_cons hc)

theorem turns_fences_blanks (hb : Blanks b) : Turns (dropFences 0 false) b b := by
  refine turns_of_forall fun c hc => dropFences_cons ?_
  rintro rfl
  exact absurd (hb _ hc) (by decide)

theorem turns_fences_mark {c : Char} (hc : c ≠ '`') (hb : Blanks b)
    (ht : Turns (dropFences 0 false) t t') :
    Turns (dropFences 0 false) (b ++ c :: t) (b ++ c :: t') :=
  (turns_fences_blanks hb).append (turns_fences_cons hc ht)

theorem turns_fences_quoted (body : List Char) (ht : Turns (dropFences 0 false) t t') :
    Turns (dropFences 0 false) ('"' :: (body ++ '"' :: t))
      ('"' :: (dropFences 0 false body ++ '"' :: t')) := by
  intro rest
  rw [List.cons_append, List.append_assoc, List.cons_append, dropFences_cons (by decide),
    dropFences_append isMark_quote false _ (Nat.zero_le _), ht]
  simp only [List.cons_append, List.append_assoc]

end Written

/-- A text is turned into one of a part of the same kind, which for an object is
an object. -/
def Unfenced (t : List Char) : Part → Prop
  | .value v => ∃ v' t', Turns (dropFences 0 false) t t' ∧ Written Any 0 (.value v') t' ∧
      ((∃ fields, v = .obj fields) → ∃ fields, v' = .obj fields)
  | .field _ => ∃ f t', Turns (dropFences 0 false) t t' ∧ Written Any 0 (.field f) t'
  | .items _ => ∃ xs t', Turns (dropFences 0 false) t t' ∧ Written Any 0 (.items xs) t'
  | .fields _ => ∃ fs t', Turns (dropFences 0 false) t t' ∧ Written Any 0 (.fields fs) t'

/-- What is written without commas too many is so when its fences are dropped. -/
theorem unfenced {n : Nat} {p : Part} {t : List Char} (h : Written Any n p t) (hn : n = 0) :
    Unfenced t p := by
  induction h with
  | @atom v t h =>
    refine ⟨v, t, turns_of_forall fun c hc => dropFences_cons ?_, .atom h, fun hv => hv⟩
    rintro rfl
    exact absurd (h.plain _ hc) (by decide)
  | @text body s hs =>
    have hbody : Literal (dropFences 0 false body) :=
      literal_dropFences hs.literal false fun _ hc => absurd hc List.not_mem_nil
    obtain ⟨s', hs'⟩ := hbody.spells
    exact ⟨_, _, turns_fences_quoted body turns_nil, .text hs' trivial, nofun⟩
  | emptyList hb =>
    exact ⟨_, _, turns_fences_cons (by decide) (turns_fences_mark (by decide) hb turns_nil),
      .emptyList hb, nofun⟩
  | list hb _ ih =>
    obtain ⟨xs, t', ht, h'⟩ := ih hn
    exact ⟨_, _, turns_fences_cons (by decide) ((turns_fences_blanks hb).append ht),
      .list hb h', nofun⟩
  | emptyObject hb =>
    exact ⟨_, _, turns_fences_cons (by decide) (turns_fences_mark (by decide) hb turns_nil),
      .emptyObject hb, fun hv => hv⟩
  | object hb _ ih =>
    obtain ⟨fs, t', ht, h'⟩ := ih hn
    exact ⟨_, _, turns_fences_cons (by decide) ((turns_fences_blanks hb).append ht),
      .object hb h', fun _ => ⟨_, rfl⟩⟩
  | @field n body _ b b' _ _ hs _ hb hb' _ ih =>
    have hbody : Literal (dropFences 0 false body) :=
      literal_dropFences hs.literal false fun _ hc => absurd hc List.not_mem_nil
    obtain ⟨s', hs'⟩ := hbody.spells
    obtain ⟨v, t', ht, h', -⟩ := ih hn
    exact ⟨_, _, turns_fences_quoted body (turns_fences_mark (by decide) hb
      ((turns_fences_blanks hb').append ht)), .field hs' trivial hb hb' h'⟩
  | lastItem _ hb ih =>
    obtain ⟨v, t', ht, h', -⟩ := ih hn
    exact ⟨_, _, ht.append (turns_fences_mark (by decide) hb turns_nil), .lastItem h' hb⟩
  | moreItems _ hb hb' _ ih ihs =>
    obtain ⟨hn, hm⟩ := Nat.add_eq_zero_iff.mp hn
    obtain ⟨v, t', ht, h', -⟩ := ih hn
    obtain ⟨xs, ts', hts, hs'⟩ := ihs hm
    exact ⟨_, _, ht.append (turns_fences_mark (by decide) hb
      ((turns_fences_blanks hb').append hts)), .moreItems h' hb hb' hs'⟩
  | lastField _ hb ih =>
    obtain ⟨f, t', ht, h'⟩ := ih hn
    exact ⟨_, _, ht.append (turns_fences_mark (by decide) hb turns_nil), .lastField h' hb⟩
  | moreFields _ hb hb' _ ih ihs =>
    obtain ⟨hn, hm⟩ := Nat.add_eq_zero_iff.mp hn
    obtain ⟨f, t', ht, h'⟩ := ih hn
    obtain ⟨fs, ts', hts, hs'⟩ := ihs hm
    exact ⟨_, _, ht.append (turns_fences_mark (by decide) hb
      ((turns_fences_blanks hb').append hts)), .moreFields h' hb hb' hs'⟩
  | commaItem | commaField => exact absurd hn (Nat.succ_ne_zero _)

/-! ## Braces -/

/-- Whether a character is a brace. -/
def isBrace (c : Char) : Bool := c == '{' || c == '}'

/-- An opening brace stands somewhere before a closing one. -/
def HasPair (cs : List Char) : Prop := ['{', '}'].Sublist cs

theorem hasPair_filter {cs : List Char} : HasPair (cs.filter isBrace) ↔ HasPair cs :=
  ⟨fun h => h.trans List.filter_sublist, fun h => h.filter isBrace⟩

/-- An object is read from no text without its braces. -/
theorem hasPair_of_readList {text : List Char} {fields : List (String × Json)}
    (h : Json.readList text = .ok (.obj fields)) : HasPair text := by
  obtain ⟨b, t, b', rfl, -, -, hwritten⟩ := Json.exists_written h
  obtain ⟨hfirst, hlast⟩ := hwritten.braces
  obtain ⟨cs, rfl⟩ := List.head?_eq_some_iff.mp hfirst
  obtain ⟨front, hfront⟩ := List.getLast?_eq_some_iff.mp hlast
  cases front with
  | nil => exact absurd (List.cons.inj hfront).1 (by decide)
  | cons c front =>
    have hmem : '}' ∈ cs := by
      rw [(List.cons.inj hfront).2]
      simp
    have hpair : HasPair ('{' :: cs) := (List.singleton_sublist.mpr hmem).cons_cons '{'
    exact hpair.trans ((List.sublist_append_right b _).trans (List.sublist_append_left _ b'))

/-! ## What repairs add -/

theorem dropFirst_sublist (p : Pattern) (cs : List Char) : (dropFirst p cs).Sublist cs := by
  rw [dropFirst]
  split
  · rename_i first stop h
    have hdrop : (cs.drop stop).Sublist (cs.drop first) := by
      rw [← Nat.add_sub_cancel' (Pattern.le_of_find? h), ← List.drop_drop]
      exact List.drop_sublist _ _
    have happend := (List.Sublist.refl (cs.take first)).append hdrop
    rwa [List.take_append_drop] at happend
  · exact List.Sublist.refl cs

theorem dropEndWhile_sublist (p : Char → Bool) (cs : List Char) :
    (Text.dropEndWhile p cs).Sublist cs := by
  have h := (List.dropWhile_sublist p (l := cs.reverse)).reverse
  rwa [List.reverse_reverse] at h

/-- What is isolated stands in the reply. -/
theorem isolate_sublist (cs : List Char) : (isolate cs).Sublist cs := by
  have hbraces : ∀ ds : List Char, (betweenBraces ds).Sublist ds := by
    intro ds
    rw [betweenBraces]
    split
    · exact List.Sublist.refl ds
    · exact (dropEndWhile_sublist _ _).trans (List.dropWhile_sublist _)
  have hfold : ∀ (ps : List Pattern) (ds : List Char),
      (ps.foldl dropIntroduction ds).Sublist ds := by
    intro ps
    induction ps with
    | nil => exact List.Sublist.refl
    | cons p ps ih =>
      intro ds
      refine (ih (dropIntroduction ds p)).trans ?_
      rw [dropIntroduction]
      split
      · exact List.Sublist.refl ds
      · exact dropFirst_sublist p ds
  rw [isolate, Text.trimList, Text.trimEnd, Text.trimStart]
  exact (dropEndWhile_sublist _ _).trans ((List.dropWhile_sublist _).trans ((hfold _ _).trans
    ((dropFirst_sublist _ _).trans ((hbraces _).trans (dropFences_sublist _ _ cs)))))

theorem filter_isBrace_eq_nil {p : Char → Bool} (hopening : p '{' = false)
    (hclosing : p '}' = false) {cs : List Char} (h : ∀ c ∈ cs, p c = true) :
    cs.filter isBrace = [] := by
  refine List.filter_eq_nil_iff.mpr fun c hc hbrace => ?_
  have hpc := h c hc
  simp only [isBrace, Bool.or_eq_true, beq_iff_eq] at hbrace
  obtain rfl | rfl := hbrace
  · exact Bool.false_ne_true (hopening.symm.trans hpc)
  · exact Bool.false_ne_true (hclosing.symm.trans hpc)

theorem filter_drop_of_prefix {w cs : List Char} (hw : w <+: cs) (hfilter : w.filter isBrace = []) :
    (cs.drop w.length).filter isBrace = cs.filter isBrace := by
  obtain ⟨more, rfl⟩ := hw
  rw [List.drop_left, List.filter_append, hfilter, List.nil_append]

/-- No brace stands in a bare key or next to it. -/
theorem filter_bareKey {cs before name after : List Char}
    (h : bareKey cs = some (before, name, after)) :
    before.filter isBrace = [] ∧ name.filter isBrace = [] ∧ after.filter isBrace = [] ∧
      cs.filter isBrace =
        (cs.drop (before.length + name.length + after.length)).filter isBrace := by
  rw [bareKey] at h
  split at h
  · obtain ⟨rfl, hrest⟩ := Prod.mk.inj (Option.some.inj h)
    obtain ⟨rfl, rfl⟩ := Prod.mk.inj hrest
    have hspace : ∀ ds : List Char, (ds.takeWhile isSpace).filter isBrace = [] := fun ds =>
      filter_isBrace_eq_nil (p := isSpace) (by decide) (by decide) fun c hc =>
        List.mem_takeWhile_imp hc
    have hname : ∀ ds, (nameAhead ds).filter isBrace = [] := fun ds =>
      filter_isBrace_eq_nil (p := isNameChar) (by decide) (by decide) fun c hc =>
        isNameChar_of_mem_nameAhead hc
    refine ⟨hspace _, hname _, hspace _, ?_⟩
    rw [← List.drop_drop, filter_drop_of_prefix (List.takeWhile_prefix _) (hspace _),
      ← List.drop_drop, filter_drop_of_prefix (prefix_nameAhead _) (hname _),
      filter_drop_of_prefix (List.takeWhile_prefix _) (hspace _)]
  · cases h

/-- Keys in quotes are no braces. -/
theorem filter_quoteKeys (cs : List Char) : (quoteKeys cs).filter isBrace = cs.filter isBrace := by
  have hfrom : ∀ skip ds,
      (quoteKeysFrom skip ds).filter isBrace = (ds.drop skip).filter isBrace := by
    intro skip ds
    fun_induction quoteKeysFrom skip ds with
    | case1 => rw [List.drop_nil]
    | case2 skip c cs ih => exact ih
    | case3 c cs before name after hkey ih =>
      split at hkey
      · obtain ⟨hbefore, hname, hafter, hcs⟩ := filter_bareKey hkey
        simp only [List.append_assoc, List.cons_append, List.filter_cons, List.filter_append,
          hbefore, hname, hafter, ih, List.drop_zero, hcs]
        simp [isBrace]
      · cases hkey
    | case4 c cs hkey ih => simp only [List.filter_cons, ih, List.drop_zero]
  exact hfrom 0 cs

theorem dropCommas_sublist (cs : List Char) : (dropCommas cs).Sublist cs := by
  have hfrom : ∀ skip ds, (dropCommasFrom skip ds).Sublist ds := by
    intro skip ds
    fun_induction dropCommasFrom skip ds with
    | case1 => exact List.Sublist.refl _
    | case2 skip c cs ih => exact ih.cons c
    | case3 c cs gap hcloses ih => exact ih.cons c
    | case4 c cs gap hcloses ih => exact ih.cons_cons c
  exact hfrom 0 cs

theorem filter_joinLines (cs : List Char) : (joinLines cs).filter isBrace = cs.filter isBrace := by
  have hbreak : ∀ {c}, breaksLine c = true → isBrace c = false := by
    intro c hc
    simp only [breaksLine, Bool.or_eq_true, beq_iff_eq] at hc
    obtain rfl | rfl := hc <;> decide
  have hfrom : ∀ inRun ds, (joinLinesFrom inRun ds).filter isBrace = ds.filter isBrace := by
    intro inRun ds
    fun_induction joinLinesFrom inRun ds with
    | case1 => rfl
    | case2 c cs hc ih => simp only [List.filter_cons, hbreak hc, ih, Bool.false_eq_true, if_false]
    | case3 inRun c cs hc hrun ih =>
      simp only [List.filter_cons, hbreak hc, ih, Bool.false_eq_true, if_false]
      rfl
    | case4 inRun c cs hc ih => simp only [List.filter_cons, ih]
  exact hfrom false cs

theorem filter_straighten (cs : List Char) :
    (cs.map straighten).filter isBrace = cs.filter isBrace := by
  have hone : ∀ c, [straighten c].filter isBrace = [c].filter isBrace := by
    intro c
    rw [straighten]
    split
    · rename_i hc
      simp only [Bool.or_eq_true, beq_iff_eq] at hc
      obtain rfl | rfl := hc <;> decide
    · split
      · rename_i hc
        simp only [Bool.or_eq_true, beq_iff_eq] at hc
        obtain rfl | rfl := hc <;> decide
      · rfl
  induction cs with
  | nil => rfl
  | cons c cs ih =>
    rw [List.map_cons, ← List.singleton_append, List.filter_append, hone, ih, ← List.filter_append,
      List.singleton_append]

theorem filter_doubleQuotes (cs : List Char) :
    (doubleQuotes cs).filter isBrace = cs.filter isBrace := by
  have hfrom : ∀ inside ds, (doubleQuotesFrom inside ds).filter isBrace = ds.filter isBrace := by
    have hquote : ∀ {c : Char} {ds ds' : List Char}, ¬ (c != '\'') = true →
        ds'.filter isBrace = ds.filter isBrace →
          ('"' :: ds').filter isBrace = (c :: ds).filter isBrace := by
      intro c ds ds' hc hds
      obtain rfl : c = '\'' := by simpa using hc
      exact hds
    intro inside ds
    fun_induction doubleQuotesFrom inside ds with
    | case1 => rfl
    | case2 inside c cs hc ih => simp only [List.filter_cons, ih]
    | case3 c cs hc ih => exact hquote hc ih
    | case4 inside c cs hc hinside hquote' ih => exact hquote hc ih
    | case5 inside c cs hc hinside hquote' ih => simp only [List.filter_cons, ih]
  rw [doubleQuotes, hfrom, filter_straighten]

/-- No repair adds a brace. -/
theorem hasPair_of_mem_repaired {text next : List Char} (hmem : next ∈ repaired text repairs)
    (h : HasPair next) : HasPair text := by
  have hkeys : HasPair (quoteKeys text) → HasPair text := fun h => by
    rwa [← hasPair_filter, filter_quoteKeys, hasPair_filter] at h
  have hcommas : HasPair (dropCommas (quoteKeys text)) → HasPair text := fun h =>
    hkeys (h.trans (dropCommas_sublist _))
  have hlines : HasPair (joinLines (dropCommas (quoteKeys text))) → HasPair text := fun h => by
    rw [← hasPair_filter, filter_joinLines, hasPair_filter] at h
    exact hcommas h
  simp only [repairs, repaired, List.mem_cons, List.not_mem_nil, or_false] at hmem
  obtain rfl | rfl | rfl | rfl := hmem
  · exact hkeys h
  · exact hcommas h
  · exact hlines h
  · rw [← hasPair_filter, filter_doubleQuotes, hasPair_filter] at h
    exact hlines h

theorem exists_of_readFirst {text : List Char} {more : List (List Char)} {v : Json}
    (h : readFirst text more = .ok v) : ∃ t ∈ text :: more, Json.readList t = .ok v := by
  induction more generalizing text with
  | nil =>
    rw [readFirst] at h
    split at h
    · rename_i hread
      exact ⟨text, List.mem_singleton_self _, by rw [hread, Except.ok.inj h]⟩
    · cases h
  | cons next more ih =>
    rw [readFirst] at h
    split at h
    · rename_i hread
      exact ⟨text, List.mem_cons_self, by rw [hread, Except.ok.inj h]⟩
    · obtain ⟨t, ht, hread⟩ := ih h
      exact ⟨t, List.mem_cons_of_mem _ ht, hread⟩

/-- An object is read from no reply without its braces. -/
theorem hasPair_of_readReply {reply : String} {fields : Fields} (h : readReply reply = .ok fields) :
    HasPair reply.toList := by
  rw [readReply] at h
  split at h
  · cases h
  · dsimp only at h
    split at h
    · rename_i hread
      obtain ⟨t, ht, hobject⟩ := exists_of_readFirst hread
      have hpair := hasPair_of_readList hobject
      have hisolate : HasPair (isolate reply.toList) := by
        rcases List.mem_cons.mp ht with he | ht
        · exact he ▸ hpair
        · exact hasPair_of_mem_repaired ht hpair
      exact hisolate.trans (isolate_sublist _)
    · cases h
    · cases h

/-! ## What is read -/

/-- A reply that is an object is read without the fences in its texts, so as it is
if it holds none. A reply that is another value is not taken for an object, unless
an opening brace stands somewhere before a closing one. -/
theorem readReply_of_read {reply : String} {v : Json} (hread : Json.read reply = .ok v) :
    (∀ fields, v = .obj fields → ∃ fields',
      Json.readList (dropFences 0 false reply.toList) = .ok (.obj fields') ∧
        readReply reply = .ok fields' ∧ (¬ fence <:+: reply.toList → fields' = fields)) ∧
    ((∀ fields, v ≠ .obj fields) → ¬ HasPair reply.toList →
      ∃ fault, readReply reply = .error fault) := by
  constructor
  · rintro fields rfl
    obtain ⟨b, t, b', htext, hb, hb', hwritten⟩ := Json.exists_written hread
    obtain ⟨v', t', hturns, hwritten', hobject⟩ := unfenced hwritten rfl
    obtain ⟨fields', rfl⟩ := hobject ⟨fields, rfl⟩
    have hdrop : dropFences 0 false reply.toList = b ++ t' ++ b' := by
      rw [htext, dropFences_wrapped hwritten.braces hturns, (turns_fences_blanks hb).eq rfl,
        (turns_fences_blanks hb').eq rfl]
    have hread' : Json.readList (dropFences 0 false reply.toList) = .ok (.obj fields') := by
      rw [hdrop]
      exact hwritten'.readList_eq_ok hb hb'
    refine ⟨fields', hread', ?_, fun hfence => ?_⟩
    · exact readReply_of_readFirst htext hwritten.braces hwritten'.braces hturns
        (not_mem_of_blanks hb (by decide)) (not_mem_of_blanks hb' (by decide))
        (readFirst_of_ok hwritten'.readList_alone _)
    · rw [dropFences_eq_self hfence] at hread'
      exact Json.obj.inj (Except.ok.inj (hread'.symm.trans hread))
  · intro _ hpair
    cases h : readReply reply with
    | error fault => exact ⟨fault, rfl⟩
    | ok fields => exact absurd (hasPair_of_readReply h) hpair

/-- A fence in a text. -/
def fenceInText : String := "\x7b\"a\": \"```b\"\x7d"

/-- A list with an object in it. -/
def objectInList : String := "[\x7b\"a\": 1\x7d]"

theorem read_fenceInText : Json.read fenceInText = .ok (.obj [("a", .str "```b")]) := by
  have hblank : Blanks [' '] := List.forall_mem_singleton.mpr rfl
  have hname : Json.Spells ['a'] ['a'] := Json.spells_self (by decide)
  have htext : Json.Spells "```b".toList "```b".toList := Json.spells_self (by decide +kernel)
  have hwritten : Written Any 0 (.value (.obj [("a", .str "```b")])) fenceInText.toList :=
    .singleton hname trivial hblank (.text htext trivial)
  exact hwritten.readList_alone

theorem isAtom_one : IsAtom (.int 1) ['1'] :=
  ⟨List.cons_ne_nil _ _, List.forall_mem_singleton.mpr (by decide), fun _ => rfl⟩

theorem readReply_of_read_both :
    (Json.read fenceInText = .ok (.obj [("a", .str "```b")]) ∧ ∃ fields',
      Json.readList (dropFences 0 false fenceInText.toList) = .ok (.obj fields') ∧
        readReply fenceInText = .ok fields') ∧
    (Json.read "[1]" = .ok (.arr [.int 1]) ∧ ¬ HasPair "[1]".toList ∧
      ∃ fault, readReply "[1]" = .error fault) := by
  have hwritten : Written Any 0 (.value (.arr [.int 1])) "[1]".toList :=
    .list blanks_nil (.lastItem (.atom isAtom_one) blanks_nil)
  have hlist : Json.read "[1]" = .ok (.arr [.int 1]) := hwritten.readList_alone
  have hpair : ¬ HasPair "[1]".toList := by
    unfold HasPair
    decide +kernel
  obtain ⟨hobject, -⟩ := readReply_of_read read_fenceInText
  obtain ⟨fields', hread, hreply, -⟩ := hobject _ rfl
  exact ⟨⟨read_fenceInText, fields', hread, hreply⟩, hlist, hpair,
    (readReply_of_read hlist).2 (fun _ he => by cases he) hpair⟩

theorem readReply_of_isolate {reply : String} {text : List Char} {fields : Fields}
    (hblank : Text.isBlankText reply = false) (hisolate : isolate reply.toList = text)
    (hread : Json.readList text = .ok (.obj fields)) : readReply reply = .ok fields := by
  rw [readReply, hblank, if_neg Bool.false_ne_true]
  dsimp only
  rw [hisolate, readFirst_of_ok hread]

/-- A fence is dropped from a text, and an object taken from a list. -/
theorem readReply_ne_read :
    (Json.read fenceInText = .ok (.obj [("a", .str "```b")]) ∧
      readReply fenceInText = .ok [("a", .str "b")] ∧ "b" ≠ "```b") ∧
    (Json.read objectInList = .ok (.arr [.obj [("a", .int 1)]]) ∧
      readReply objectInList = .ok [("a", .int 1)]) := by
  have hblank : Blanks [' '] := List.forall_mem_singleton.mpr rfl
  have hname : Json.Spells ['a'] ['a'] := Json.spells_self (by decide)
  have htext : Json.Spells ['b'] ['b'] := Json.spells_self (by decide)
  have hunfenced : Written Any 0 (.value (.obj [("a", .str "b")])) "\x7b\"a\": \"b\"\x7d".toList :=
    .singleton hname trivial hblank (.text htext trivial)
  have hobject : Written Any 0 (.value (.obj [("a", .int 1)])) "\x7b\"a\": 1\x7d".toList :=
    .singleton hname trivial hblank (.atom isAtom_one)
  have hlist : Written Any 0 (.value (.arr [.obj [("a", .int 1)]])) objectInList.toList :=
    .list blanks_nil (.lastItem hobject blanks_nil)
  exact ⟨⟨read_fenceInText, readReply_of_isolate (by decide +kernel) (by decide +kernel)
    hunfenced.readList_alone, by decide⟩, hlist.readList_alone,
    readReply_of_isolate (by decide +kernel) (by decide +kernel) hobject.readList_alone⟩

end RouteDoc.Service
