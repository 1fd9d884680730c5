import RouteDoc.Proofs.Json.Written
import RouteDoc.Proofs.Route.Names
import RouteDoc.Proofs.Service.Wrapped

/-!
# Commas before closing brackets

A reply with commas after last items or fields is read as if they were not
there, if nothing that a repair would change stands in a text of it.

* `IsUntouched`: the repairs leave what stands between quotes as it is;
* `turns_quoteKeys`, `turns_dropCommas`: what the repairs make of a text that is
  written with such commas;
* `readReply_commas`: the object in the reply is read.
-/

namespace RouteDoc.Service

open Json (Any Written Part Blanks isBlank isStart isPlain IsAtom blanks_nil)
open Text (Ends Turns ends_cons turns_nil turns_of_forall takeWhile_append_of_ends
  head?_append_of_ends isSpace)

/-! ## Bare keys -/

/-- A character at which neither a name nor white space goes on, and that is no
colon. -/
def IsStop (d : Char) : Prop := isSpace d = false ∧ isNameChar d = false ∧ d ≠ ':'

/-- The length of what stands before the colon. -/
theorem bareKey_length (cs : List Char) : (cs.takeWhile isSpace).length ≤ cs.length ∧
    (cs.takeWhile isSpace).length + (nameAhead (cs.drop (cs.takeWhile isSpace).length)).length ≤
      cs.length := by
  have hspace := (List.takeWhile_prefix isSpace (l := cs)).length_le
  have hname := (prefix_nameAhead (cs.drop (cs.takeWhile isSpace).length)).length_le
  rw [List.length_drop] at hname
  omega

/-- No bare key reaches over a stop. -/
theorem bareKey_append {d : Char} (hd : IsStop d) (cs rest : List Char) :
    bareKey (cs ++ d :: rest) = bareKey cs := by
  obtain ⟨hspace, hname, hcolon⟩ := hd
  obtain ⟨hbefore, hkey⟩ := bareKey_length cs
  have hends : Ends (':' == ·) (d :: rest) := ends_cons.mpr (beq_eq_false_iff_ne.mpr hcolon.symm)
  rw [bareKey, bareKey]
  rw [takeWhile_append_of_ends (ends_cons.mpr hspace), List.drop_append_of_le_length hbefore,
    nameAhead_append hname, List.drop_append_of_le_length hkey,
    takeWhile_append_of_ends (ends_cons.mpr hspace),
    List.drop_append_of_le_length (List.takeWhile_prefix _).length_le,
    head?_append_of_ends (beq_self_eq_true _) hends]

theorem length_of_bareKey {cs before name after : List Char}
    (h : bareKey cs = some (before, name, after)) :
    before.length + name.length + after.length ≤ cs.length := by
  have hkey := (bareKey_length cs).2
  rw [bareKey] at h
  split at h
  · obtain ⟨rfl, hrest⟩ := Prod.mk.inj (Option.some.inj h)
    obtain ⟨rfl, rfl⟩ := Prod.mk.inj hrest
    have hafter := (List.takeWhile_prefix isSpace (l := cs.drop
      ((cs.takeWhile isSpace).length +
        (nameAhead (cs.drop (cs.takeWhile isSpace).length)).length))).length_le
    rw [List.length_drop] at hafter
    omega
  · cases h

theorem bareKey_eq_none {cs : List Char} (h : ':' ∉ cs) : bareKey cs = none := by
  rw [bareKey]
  rw [if_neg]
  intro hkey
  have hcolon := List.mem_of_mem_head? (beq_iff_eq.mp (Bool.and_eq_true_iff.mp hkey).2)
  exact h (List.mem_of_mem_drop (List.mem_of_mem_drop hcolon))

theorem quoteKeysFrom_succ (skip : Nat) (c : Char) (cs : List Char) :
    quoteKeysFrom (skip + 1) (c :: cs) = quoteKeysFrom skip cs := by
  rw [quoteKeysFrom]

/-- A character after which no bare key comes is kept. -/
theorem quoteKeysFrom_keep {c : Char} {cs : List Char}
    (h : (c == '{' || c == ',') = true → bareKey cs = none) :
    quoteKeysFrom 0 (c :: cs) = c :: quoteKeysFrom 0 cs := by
  rw [quoteKeysFrom]
  split
  · rename_i hkey
    split at hkey
    · rename_i hc
      rw [h hc] at hkey
      cases hkey
    · cases hkey
  · rfl

/-- Keys on the two sides of a stop are put in quotes on their own. -/
theorem quoteKeysFrom_append {d : Char} (hd : IsStop d) {skip : Nat} {cs : List Char}
    (hskip : skip ≤ cs.length) (rest : List Char) :
    quoteKeysFrom skip (cs ++ d :: rest) =
      quoteKeysFrom skip cs ++ quoteKeysFrom 0 (d :: rest) := by
  induction cs generalizing skip with
  | nil =>
    obtain rfl : skip = 0 := Nat.le_zero.mp hskip
    rfl
  | cons c cs ih =>
    rw [List.cons_append]
    cases skip with
    | succ skip =>
      rw [quoteKeysFrom_succ, quoteKeysFrom_succ, ih (Nat.le_of_succ_le_succ hskip)]
    | zero =>
      rw [quoteKeysFrom, quoteKeysFrom, bareKey_append hd]
      split
      · rename_i before name after hkey
        have hlength : before.length + name.length + after.length ≤ cs.length := by
          split at hkey
          · exact length_of_bareKey hkey
          · cases hkey
        rw [ih hlength]
        simp only [List.cons_append, List.append_assoc]
      · rw [ih (Nat.zero_le _), List.cons_append]

/-! ## Commas -/

theorem dropCommasFrom_succ (skip : Nat) (c : Char) (cs : List Char) :
    dropCommasFrom (skip + 1) (c :: cs) = dropCommasFrom skip cs := by
  rw [dropCommasFrom]

/-- A character that is no comma, or after which no bracket closes, is kept. -/
theorem dropCommasFrom_keep {c : Char} {cs : List Char}
    (h : c = ',' → closes (cs.drop (cs.takeWhile isSpace).length) = false) :
    dropCommasFrom 0 (c :: cs) = c :: dropCommasFrom 0 cs := by
  rw [dropCommasFrom, if_neg]
  intro hcloses
  obtain ⟨hc, hclose⟩ := Bool.and_eq_true_iff.mp hcloses
  rw [h (beq_iff_eq.mp hc)] at hclose
  cases hclose

theorem dropCommasFrom_skip (skipped cs : List Char) :
    dropCommasFrom skipped.length (skipped ++ cs) = dropCommasFrom 0 cs := by
  induction skipped with
  | nil => rfl
  | cons c skipped ih => rw [List.length_cons, List.cons_append, dropCommasFrom_succ, ih]

/-- A character that is neither white space nor a closing bracket. -/
def IsOpen (d : Char) : Prop := isSpace d = false ∧ d ≠ '}' ∧ d ≠ ']'

theorem closes_append {d : Char} (hd : IsOpen d) (cs rest : List Char) :
    closes (cs ++ d :: rest) = closes cs := by
  cases cs with
  | nil => simp [closes, hd.2.1, hd.2.2]
  | cons c cs => rfl

/-- Commas on the two sides of such a character are dropped on their own. -/
theorem dropCommasFrom_append {d : Char} (hd : IsOpen d) {skip : Nat} {cs : List Char}
    (hskip : skip ≤ cs.length) (rest : List Char) :
    dropCommasFrom skip (cs ++ d :: rest) =
      dropCommasFrom skip cs ++ dropCommasFrom 0 (d :: rest) := by
  induction cs generalizing skip with
  | nil =>
    obtain rfl : skip = 0 := Nat.le_zero.mp hskip
    rfl
  | cons c cs ih =>
    rw [List.cons_append]
    cases skip with
    | succ skip =>
      rw [dropCommasFrom_succ, dropCommasFrom_succ, ih (Nat.le_of_succ_le_succ hskip)]
    | zero =>
      have hgap := (List.takeWhile_prefix isSpace (l := cs)).length_le
      rw [dropCommasFrom, dropCommasFrom, takeWhile_append_of_ends (ends_cons.mpr hd.1),
        List.drop_append_of_le_length hgap, closes_append hd]
      split
      · exact ih hgap
      · rw [ih (Nat.zero_le _), List.cons_append]

/-! ## Repairs of what is written -/

/-- The repairs leave what stands between quotes as it is. -/
structure IsUntouched (body : List Char) : Prop where
  fences : dropFences 0 false body = body
  keys : quoteKeys body = body
  commas : dropCommas body = body

/-- No bare key comes, whatever follows. -/
def Quiet (t : List Char) : Prop := ∀ rest, bareKey (t ++ rest) = none

/-- A text that holds no colon, or begins with a stop. -/
def Opens (t : List Char) : Prop := ':' ∉ t ∨ ∃ c cs, t = c :: cs ∧ IsStop c

theorem not_mem_of_blanks {b : List Char} (hb : Blanks b) {c : Char} (hc : isBlank c = false) :
    c ∉ b := fun hmem => Bool.false_ne_true (hc.symm.trans (hb c hmem))

theorem not_mem_of_isAtom {v : Json} {t : List Char} (h : IsAtom v t) {c : Char}
    (hc : isPlain c = false) : c ∉ t := fun hmem =>
  Bool.false_ne_true (hc.symm.trans (h.plain c hmem))

theorem quiet_append_cons {u : List Char} (hu : ':' ∉ u) {d : Char} (hd : IsStop d)
    (cs : List Char) : Quiet (u ++ d :: cs) := by
  intro rest
  rw [List.append_assoc, List.cons_append, bareKey_append hd, bareKey_eq_none hu]

theorem Opens.quiet {t b b' : List Char} (h : Opens t) (hb : Blanks b) (hb' : Blanks b') {d : Char}
    (hd : IsStop d) (cs : List Char) : Quiet (b ++ (t ++ (b' ++ d :: cs))) := by
  have hcolon : ∀ {b}, Blanks b → ':' ∉ b := fun hb => not_mem_of_blanks hb (by decide)
  obtain ht | ⟨c, t, rfl, hc⟩ := h
  · have hall : ':' ∉ b ++ (t ++ b') := by
      simp only [List.mem_append, not_or]
      exact ⟨hcolon hb, ht, hcolon hb'⟩
    have hquiet := quiet_append_cons hall hd cs
    rwa [List.append_assoc, List.append_assoc] at hquiet
  · exact quiet_append_cons (hcolon hb) hc _

section Opens

variable {P : List Char → Prop} {n : Nat} {t : List Char}

theorem isStop_of_mem {c : Char} (h : c ∈ ['"', '[', ']', '{', '}', ',']) : IsStop c := by
  have hall : ∀ c ∈ ['"', '[', ']', '{', '}', ','],
      isSpace c = false ∧ isNameChar c = false ∧ c ≠ ':' := by
    simp only [List.forall_mem_cons, List.not_mem_nil, false_implies, implies_true, and_true]
    decide
  exact hall c h

theorem opens_of_value {v : Json} (h : Written P n (.value v) t) : Opens t := by
  cases h with
  | atom h => exact .inl (not_mem_of_isAtom h (by decide))
  | text | emptyList | list | emptyObject | object =>
    exact .inr ⟨_, _, rfl, isStop_of_mem (by decide)⟩

theorem opens_of_field {f : String × Json} (h : Written P n (.field f) t) : Opens t := by
  cases h with
  | field => exact .inr ⟨_, _, rfl, isStop_of_mem (by decide)⟩

theorem quiet_of_items {xs : List Json} (h : Written P n (.items xs) t) {b : List Char}
    (hb : Blanks b) : Quiet (b ++ t) := by
  cases h with
  | lastItem h hb' | commaItem h hb' _ | moreItems h hb' _ _ =>
    exact (opens_of_value h).quiet hb hb' (isStop_of_mem (by decide)) _

theorem quiet_of_fields {fs : List (String × Json)} (h : Written P n (.fields fs) t)
    {b : List Char} (hb : Blanks b) : Quiet (b ++ t) := by
  cases h with
  | lastField h hb' | commaField h hb' _ | moreFields h hb' _ _ =>
    exact (opens_of_field h).quiet hb hb' (isStop_of_mem (by decide)) _

end Opens

/-- A repair that changes nothing but bare keys, fences, and some of what stands
between quotes. -/
structure KeepsParts (f : List Char → List Char) (P : List Char → Prop) : Prop where
  keep : ∀ {c}, c ∉ ['{', ',', '`'] → ∀ rest, f (c :: rest) = c :: f rest
  mark : ∀ {c}, c ∈ ['{', ','] → ∀ {cs}, bareKey cs = none → f (c :: cs) = c :: f cs
  body : ∀ {body}, P body → ∀ rest, f (body ++ '"' :: rest) = body ++ '"' :: f rest

section KeepsParts

variable {f : List Char → List Char} {P : List Char → Prop} {n : Nat} {p : Part}
  {t b : List Char}

theorem KeepsParts.cons (hf : KeepsParts f P) {c : Char} (hc : c ∉ ['{', ',', '`'])
    (ht : Turns f t t) : Turns f (c :: t) (c :: t) :=
  ht.cons (hf.keep hc)

theorem KeepsParts.marked (hf : KeepsParts f P) {c : Char} (hc : c ∈ ['{', ','])
    (hquiet : Quiet t) (ht : Turns f t t) : Turns f (c :: t) (c :: t) := by
  intro rest
  rw [List.cons_append, hf.mark hc (hquiet rest), ht, List.cons_append]

theorem KeepsParts.blanks (hf : KeepsParts f P) (hb : Blanks b) : Turns f b b := by
  have hnot : ∀ d ∈ ['{', ',', '`'], isBlank d = false := by
    simp only [List.forall_mem_cons, List.not_mem_nil, false_implies, implies_true, and_true]
    decide
  exact turns_of_forall fun c hc => hf.keep fun hmem => not_mem_of_blanks hb (hnot c hmem) hc

theorem KeepsParts.close (hf : KeepsParts f P) (hb : Blanks b) {close : Char}
    (hclose : close ∉ ['{', ',', '`']) : Turns f (b ++ [close]) (b ++ [close]) :=
  (hf.blanks hb).append (hf.cons hclose turns_nil)

theorem KeepsParts.atom (hf : KeepsParts f P) {v : Json} (h : IsAtom v t) : Turns f t t := by
  have hnot : ∀ d ∈ ['{', ',', '`'], isPlain d = false := by
    simp only [List.forall_mem_cons, List.not_mem_nil, false_implies, implies_true, and_true]
    decide
  exact turns_of_forall fun c hc => hf.keep fun hmem => not_mem_of_isAtom h (hnot c hmem) hc

theorem KeepsParts.quoted (hf : KeepsParts f P) {body : List Char} (hbody : P body)
    (ht : Turns f t t) : Turns f ('"' :: (body ++ '"' :: t)) ('"' :: (body ++ '"' :: t)) := by
  intro rest
  rw [List.cons_append, List.append_assoc, List.cons_append, hf.keep (by decide), hf.body hbody, ht]
  simp only [List.cons_append, List.append_assoc]

/-- What is written stays as it is. -/
theorem KeepsParts.turns (hf : KeepsParts f P) (h : Written P n p t) : Turns f t t := by
  induction h with
  | atom h => exact hf.atom h
  | text _ hbody => exact hf.quoted hbody turns_nil
  | emptyList hb => exact hf.cons (by decide) (hf.close hb (by decide))
  | list hb _ ih => exact hf.cons (by decide) ((hf.blanks hb).append ih)
  | emptyObject hb =>
    exact hf.marked (by decide)
      (quiet_append_cons (not_mem_of_blanks hb (by decide)) (isStop_of_mem (by decide)) [])
      (hf.close hb (by decide))
  | object hb h ih => exact hf.marked (by decide) (quiet_of_fields h hb) ((hf.blanks hb).append ih)
  | field _ hbody hb hb' _ ih =>
    exact hf.quoted hbody ((hf.blanks hb).append (hf.cons (by decide) ((hf.blanks hb').append ih)))
  | lastItem _ hb ih | lastField _ hb ih =>
    exact ih.append (hf.close hb (by decide))
  | commaItem _ hb hb' ih | commaField _ hb hb' ih =>
    exact ih.append ((hf.blanks hb).append (hf.marked (by decide)
      (quiet_append_cons (not_mem_of_blanks hb' (by decide)) (isStop_of_mem (by decide)) [])
      (hf.close hb' (by decide))))
  | moreItems _ hb hb' hs ih ihs =>
    exact ih.append ((hf.blanks hb).append (hf.marked (by decide) (quiet_of_items hs hb')
      ((hf.blanks hb').append ihs)))
  | moreFields _ hb hb' hs ih ihs =>
    exact ih.append ((hf.blanks hb).append (hf.marked (by decide) (quiet_of_fields hs hb')
      ((hf.blanks hb').append ihs)))

end KeepsParts

theorem keepsParts_dropFences : KeepsParts (dropFences 0 false) IsUntouched := by
  refine ⟨fun hc => dropFences_cons (by simp_all), fun hc cs _ => dropFences_cons ?_ cs,
    fun hbody rest => ?_⟩
  · rintro rfl
    exact absurd hc (by decide)
  · rw [dropFences_append isMark_quote false _ (Nat.zero_le _), hbody.fences]

theorem keepsParts_quoteKeys : KeepsParts quoteKeys IsUntouched := by
  refine ⟨fun hc rest => quoteKeysFrom_keep fun hmark => ?_,
    fun _ _ hkey => quoteKeysFrom_keep fun _ => hkey, fun {body} hbody rest => ?_⟩
  · simp_all
  · have happend : quoteKeys (body ++ '"' :: rest) = quoteKeys body ++ quoteKeys ('"' :: rest) :=
      quoteKeysFrom_append (isStop_of_mem (by decide)) (Nat.zero_le _) rest
    have hquote : quoteKeys ('"' :: rest) = '"' :: quoteKeys rest :=
      quoteKeysFrom_keep fun hmark => absurd hmark (by decide)
    rw [happend, hbody.keys, hquote]

/-! ## Without commas too many -/

theorem dropCommas_keep {c : Char} (hc : c ≠ ',') (rest : List Char) :
    dropCommas (c :: rest) = c :: dropCommas rest := dropCommasFrom_keep fun h => absurd h hc

theorem isSpace_of_isBlank {c : Char} (h : isBlank c = true) : isSpace c = true := by
  simp only [isBlank, Bool.or_eq_true, beq_iff_eq] at h
  rcases h with ((rfl | rfl) | rfl) | rfl <;> decide

/-- What a part begins with is no white space of any script. -/
theorem isSpace_of_isStart {c : Char} (h : isStart c = true) : isSpace c = false := by
  simp only [isStart, isPlain, Bool.or_eq_true, beq_iff_eq] at h
  obtain (((((h | rfl) | rfl) | rfl) | rfl) | rfl) | rfl := h
  · exact Text.isSpace_of_isAlphanum h
  all_goals decide

theorem closes_of_isStart {b : List Char} (hb : Blanks b) {c : Char} (hc : isStart c = true)
    (cs : List Char) :
    closes ((b ++ c :: cs).drop ((b ++ c :: cs).takeWhile isSpace).length) = false := by
  have hgap : (b ++ c :: cs).takeWhile isSpace = b := by
    rw [List.takeWhile_append_of_pos fun d hd => isSpace_of_isBlank (hb d hd),
      List.takeWhile_cons_of_neg (by simp [isSpace_of_isStart hc]), List.append_nil]
  rw [hgap, List.drop_left]
  have hne : ∀ {d}, isStart d = false → c ≠ d := fun hd => Json.ne_of_isStart hc hd
  simp [closes, hne (d := '}') (by decide), hne (d := ']') (by decide)]

section Commas

variable {t t' b b' : List Char}

theorem turns_blanks (hb : Blanks b) : Turns dropCommas b b :=
  turns_of_forall fun _ hc => dropCommas_keep fun he =>
    not_mem_of_blanks hb (by decide : isBlank ',' = false) (he ▸ hc)

theorem turns_cons {c : Char} (hc : c ≠ ',') (ht : Turns dropCommas t t') :
    Turns dropCommas (c :: t) (c :: t') :=
  ht.cons (dropCommas_keep hc)

theorem turns_close {close : Char} (hclose : close ≠ ',') (hb : Blanks b) :
    Turns dropCommas (b ++ [close]) (b ++ [close]) :=
  (turns_blanks hb).append (turns_cons hclose turns_nil)

theorem turns_quoted {body : List Char} (hbody : IsUntouched body) (ht : Turns dropCommas t t') :
    Turns dropCommas ('"' :: (body ++ '"' :: t)) ('"' :: (body ++ '"' :: t')) := by
  intro rest
  have happend : ∀ more, dropCommas (body ++ '"' :: more) =
      dropCommas body ++ dropCommas ('"' :: more) :=
    dropCommasFrom_append (by unfold IsOpen; decide) (Nat.zero_le _)
  rw [List.cons_append, List.append_assoc, List.cons_append, dropCommas_keep (by decide), happend,
    hbody.commas, dropCommas_keep (by decide), ht]
  simp only [List.cons_append, List.append_assoc]

/-- A comma before another part is kept. -/
theorem turns_comma (hb : Blanks b) (hstart : ∃ c cs, t = c :: cs ∧ isStart c = true)
    (ht : Turns dropCommas t t') : Turns dropCommas (',' :: (b ++ t)) (',' :: (b ++ t')) := by
  intro rest
  obtain ⟨c, cs, rfl, hc⟩ := hstart
  have hkeep : dropCommas (',' :: (b ++ (c :: cs) ++ rest)) =
      ',' :: dropCommas (b ++ (c :: cs) ++ rest) := by
    refine dropCommasFrom_keep fun _ => ?_
    rw [List.append_assoc]
    exact closes_of_isStart hb hc (cs ++ rest)
  rw [List.cons_append, hkeep, (turns_blanks hb).append ht, List.cons_append]

/-- A comma before a closing bracket is dropped, with the blanks between them. -/
theorem turns_last {close : Char} (hclose : close ∈ [']', '}']) (hb : Blanks b) :
    Turns dropCommas (',' :: (b ++ [close])) [close] := by
  intro rest
  have hclosing : ∀ d ∈ [']', '}'], isSpace d = false ∧ d ≠ ',' ∧ (d = '}' ∨ d = ']') := by
    simp only [List.forall_mem_cons, List.not_mem_nil, false_implies, implies_true, and_true]
    decide
  obtain ⟨hspace, hcomma, hcloses⟩ := hclosing close hclose
  have hgap : (b ++ close :: rest).takeWhile isSpace = b := by
    rw [List.takeWhile_append_of_pos fun d hd => isSpace_of_isBlank (hb d hd),
      List.takeWhile_cons_of_neg (by simp [hspace]), List.append_nil]
  rw [List.cons_append, List.append_assoc, List.singleton_append, dropCommas, dropCommasFrom, hgap,
    List.drop_left, if_pos (by simpa [closes] using hcloses), dropCommasFrom_skip]
  exact dropCommas_keep hcomma rest

end Commas

/-- What is written with commas too many is turned into what is written without. -/
theorem exists_turns_dropCommas {n : Nat} {p : Part} {t : List Char}
    (h : Written IsUntouched n p t) :
    ∃ t', Turns dropCommas t t' ∧ Written IsUntouched 0 p t' := by
  induction h with
  | @atom v t h =>
    refine ⟨t, turns_of_forall fun c hc => dropCommas_keep ?_, .atom h⟩
    rintro rfl
    exact not_mem_of_isAtom h (by decide : isPlain ',' = false) hc
  | text hs hbody => exact ⟨_, turns_quoted hbody turns_nil, .text hs hbody⟩
  | emptyList hb =>
    exact ⟨_, turns_cons (by decide) (turns_close (by decide) hb), .emptyList hb⟩
  | list hb _ ih =>
    obtain ⟨t', ht, h'⟩ := ih
    exact ⟨_, turns_cons (by decide) ((turns_blanks hb).append ht), .list hb h'⟩
  | emptyObject hb =>
    exact ⟨_, turns_cons (by decide) (turns_close (by decide) hb), .emptyObject hb⟩
  | object hb _ ih =>
    obtain ⟨t', ht, h'⟩ := ih
    exact ⟨_, turns_cons (by decide) ((turns_blanks hb).append ht), .object hb h'⟩
  | field hs hbody hb hb' _ ih =>
    obtain ⟨t', ht, h'⟩ := ih
    have hvalue := turns_cons (c := ':') (by decide) ((turns_blanks hb').append ht)
    exact ⟨_, turns_quoted hbody ((turns_blanks hb).append hvalue), .field hs hbody hb hb' h'⟩
  | lastItem _ hb ih =>
    obtain ⟨t', ht, h'⟩ := ih
    exact ⟨_, ht.append (turns_close (by decide) hb), .lastItem h' hb⟩
  | commaItem _ hb hb' ih =>
    obtain ⟨t', ht, h'⟩ := ih
    exact ⟨_, ht.append ((turns_blanks hb).append (turns_last (by decide) hb')), .lastItem h' hb⟩
  | moreItems _ hb hb' hs ih ihs =>
    obtain ⟨t', ht, h'⟩ := ih
    obtain ⟨ts', hts, hs'⟩ := ihs
    exact ⟨_, ht.append ((turns_blanks hb).append (turns_comma hb' hs.exists_cons hts)),
      .moreItems h' hb hb' hs'⟩
  | lastField _ hb ih =>
    obtain ⟨t', ht, h'⟩ := ih
    exact ⟨_, ht.append (turns_close (by decide) hb), .lastField h' hb⟩
  | commaField _ hb hb' ih =>
    obtain ⟨t', ht, h'⟩ := ih
    exact ⟨_, ht.append ((turns_blanks hb).append (turns_last (by decide) hb')), .lastField h' hb⟩
  | moreFields _ hb hb' hs ih ihs =>
    obtain ⟨t', ht, h'⟩ := ih
    obtain ⟨ts', hts, hs'⟩ := ihs
    exact ⟨_, ht.append ((turns_blanks hb).append (turns_comma hb' hs.exists_cons hts)),
      .moreFields h' hb hb' hs'⟩

/-! ## Reading -/

theorem readFirst_of_error {text next : List Char} {more : List (List Char)}
    (h : ∃ e, Json.readList text = .error e) :
    readFirst text (next :: more) = readFirst next more := by
  obtain ⟨e, he⟩ := h
  rw [readFirst, he]

/-- An object is read from what is written with commas too many. -/
theorem readFirst_of_written {n : Nat} {fields : Fields} {t : List Char}
    (h : Written IsUntouched n (.value (.obj fields)) t) :
    readFirst t (repaired t repairs) = .ok (.obj fields) := by
  by_cases hn : n = 0
  · subst hn
    exact readFirst_of_ok h.readList_alone _
  · have hkeys : quoteKeys t = t := (keepsParts_quoteKeys.turns h).eq rfl
    obtain ⟨t', hturns, h'⟩ := exists_turns_dropCommas h
    have herror := h.not_readList_alone hn
    simp only [repairs, repaired]
    rw [hkeys, hturns.eq rfl, readFirst_of_error herror, readFirst_of_error herror]
    exact readFirst_of_ok h'.readList_alone _

/-- The object in a reply is read, however many commas follow its last items and
fields, at all depths, if the repairs would leave its texts as they are. -/
theorem readReply_commas {reply : String} {front object back : List Char} {n : Nat}
    {fields : Fields} (hreply : reply.toList = front ++ object ++ back)
    (h : Written IsUntouched n (.value (.obj fields)) object) (hfront : '{' ∉ front)
    (hback : '}' ∉ back) : readReply reply = .ok fields :=
  readReply_of_readFirst hreply h.braces h.braces (keepsParts_dropFences.turns h) hfront hback
    (readFirst_of_written h)

/-- A list and an object with a comma too many each. -/
def twoCommas : String := "\x7b\"a\": [1,], \x7d"

theorem written_twoCommas :
    Written IsUntouched 2 (.value (.obj [("a", .arr [.int 1])])) twoCommas.toList := by
  have hblank : Blanks [' '] := List.forall_mem_singleton.mpr rfl
  have hone : Written IsUntouched 0 (.value (.int 1)) ['1'] :=
    .atom ⟨List.cons_ne_nil _ _, List.forall_mem_singleton.mpr (by decide), fun _ => rfl⟩
  have hname : Json.Spells ['a'] ['a'] := Json.spells_self (by decide)
  have hfield := Written.field hname ⟨rfl, rfl, rfl⟩ blanks_nil hblank
    (.list blanks_nil (.commaItem hone blanks_nil blanks_nil))
  exact .object blanks_nil (.commaField hfield blanks_nil hblank)

theorem readReply_twoCommas :
    ("So: " ++ twoCommas).toList = "So: ".toList ++ twoCommas.toList ++ [] ∧
      Written IsUntouched 2 (.value (.obj [("a", .arr [.int 1])])) twoCommas.toList ∧
      '{' ∉ "So: ".toList ∧ '}' ∉ ([] : List Char) ∧
      readReply ("So: " ++ twoCommas) = .ok [("a", .arr [.int 1])] := by
  have hreply : ("So: " ++ twoCommas).toList = "So: ".toList ++ twoCommas.toList ++ [] := by
    rw [String.toList_append, List.append_nil]
  have hfront : '{' ∉ "So: ".toList := by decide +kernel
  have hback : '}' ∉ ([] : List Char) := by decide
  exact ⟨hreply, written_twoCommas, hfront, hback,
    readReply_commas hreply written_twoCommas hfront hback⟩

/-- A comma too many, and one before a bracket in a text. -/
def commaInText : String := "\x7b\"a\":\"x,\x7d\",\x7d"

/-- A comma in a text is dropped as if it followed a last item. -/
theorem readReply_commaInText :
    Written (fun body => ¬ fence <:+: body) 1 (.value (.obj [("a", .str "x,\x7d")]))
        commaInText.toList ∧
      readReply commaInText = .ok [("a", .str "x\x7d")] ∧ "x\x7d" ≠ "x,\x7d" := by
  have hname : Json.Spells ['a'] ['a'] := Json.spells_self (by decide)
  have htext : Json.Spells ['x', ',', '}'] ['x', ',', '}'] := Json.spells_self (by decide)
  have hwritten : Written (fun body => ¬ fence <:+: body) 1 (.value (.obj [("a", .str "x,\x7d")]))
      commaInText.toList := by
    refine .object blanks_nil (.commaField (.field hname ?_ blanks_nil blanks_nil (.text htext ?_))
      blanks_nil blanks_nil)
    · decide
    · decide
  refine ⟨hwritten, ?_, by decide⟩
  have hblank : Text.isBlankText commaInText = false := by decide +kernel
  have hisolate : isolate commaInText.toList = commaInText.toList := by decide +kernel
  have hkeys : quoteKeys commaInText.toList = commaInText.toList := by decide +kernel
  have hcommas : dropCommas commaInText.toList = "\x7b\"a\":\"x\x7d\"\x7d".toList := by
    decide +kernel
  have hleft : Json.Spells ['x', '}'] ['x', '}'] := Json.spells_self (by decide)
  have hrest : Written Any 0 (.value (.obj [("a", .str "x\x7d")]))
      "\x7b\"a\":\"x\x7d\"\x7d".toList :=
    .singleton hname trivial blanks_nil (.text hleft trivial)
  have herror := hwritten.not_readList_alone Nat.one_ne_zero
  rw [readReply, hblank, if_neg Bool.false_ne_true]
  simp only [hisolate, repairs, repaired, hkeys, hcommas]
  rw [readFirst_of_error herror, readFirst_of_error herror,
    readFirst_of_ok hrest.readList_alone]

end RouteDoc.Service
