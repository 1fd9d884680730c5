import Mathlib.Data.List.Infix
import RouteDoc.Proofs.Console.Emojied
import RouteDoc.Proofs.Console.Wrapped

/-!
# Texts without markup

A calm text whose lines fit is printed as it is where nothing in it is markup. Where
something is, some of its marks are missing from what is printed, if anything is, however
long the lines are.

* `Unmarked`: texts in which nothing is a tag, a bracket behind a backslash or the name of
  an emoji;
* `pieces_cases`: a text has no tag, or is taken apart at the first;
* `plain_of_unmarked`: what is left of a text without markup;
* `line_of_plain`, `exists_printed_of_line`: how a calm text is printed.
-/

namespace RouteDoc.Console

open Json (Calm calm_of_append isInk)

/-- Nothing in a text is markup: no bracket opens a tag or follows a backslash, and no
emoji is named. -/
structure Unmarked (cs : List Char) : Prop where
  tag : ∀ rest, '[' :: rest <:+ cs → tagInside? rest = none
  bracket : ¬ ['\\', '['] <:+: cs
  emoji : withEmoji cs = cs

/-! ## Tags -/

theorem tagInside?_eq_some {cs inside : List Char} (h : tagInside? cs = some inside) :
    ∃ rest, cs = inside ++ ']' :: rest := by
  unfold tagInside? at h
  split at h
  · dsimp only at h
    split at h
    · rename_i hclose
      obtain ⟨rest, hrest⟩ :=
        List.head?_eq_some_iff.mp (beq_iff_eq.mp ((Bool.and_eq_true _ _).mp hclose).2)
      obtain rfl := Option.some.inj h
      refine ⟨rest, ?_⟩
      rw [← hrest, List.prefix_iff_eq_append.mp (List.takeWhile_prefix _)]
    · cases h
  · cases h

theorem markAt?_slashes (k : Nat) (rest : List Char) :
    markAt? (List.replicate k '\\' ++ '[' :: rest) =
      (tagInside? rest).map fun inside => (k, inside) := by
  have htake : (List.replicate k '\\' ++ '[' :: rest).takeWhile (· == '\\') =
      List.replicate k '\\' := by
    rw [List.takeWhile_append_of_pos fun c hc => by rw [List.eq_of_mem_replicate hc]; rfl,
      List.takeWhile_cons_of_neg (by decide), List.append_nil]
  rw [markAt?, htake, List.length_replicate, List.drop_left' (List.length_replicate ..)]
  rfl

/-- Markup is a tag with the backslashes before it. -/
theorem markAt?_eq_some {cs inside : List Char} {k : Nat} (h : markAt? cs = some (k, inside)) :
    ∃ rest, cs = List.replicate k '\\' ++ '[' :: rest ∧ tagInside? rest = some inside := by
  unfold markAt? at h
  dsimp only at h
  have hsplit := List.prefix_iff_eq_append.mp (List.takeWhile_prefix (l := cs) (· == '\\'))
  have hslashes : cs.takeWhile (· == '\\') =
      List.replicate (cs.takeWhile (· == '\\')).length '\\' :=
    List.eq_replicate_iff.mpr ⟨rfl, fun c hc => beq_iff_eq.mp
      (List.mem_takeWhile_imp (p := (· == '\\')) hc)⟩
  split at h
  · rename_i rest hrest
    obtain ⟨inside', hinside, heq⟩ := Option.map_eq_some_iff.mp h
    obtain ⟨rfl, rfl⟩ := Prod.mk.inj heq
    refine ⟨rest, ?_, hinside⟩
    rw [← hslashes, ← hrest, hsplit]
  · cases h

/-- Nothing in a text is a tag. -/
def Untagged (cs : List Char) : Prop := ∀ rest, rest <:+ cs → markAt? rest = none

theorem untagged_iff {cs : List Char} :
    Untagged cs ↔ ∀ rest, '[' :: rest <:+ cs → tagInside? rest = none := by
  constructor
  · intro h rest hrest
    have hnone := h _ hrest
    have hmark := markAt?_slashes 0 rest
    rw [List.replicate_zero, List.nil_append, hnone] at hmark
    exact Option.map_eq_none_iff.mp hmark.symm
  · intro h rest hrest
    cases hmark : markAt? rest with
    | none => rfl
    | some m =>
      obtain ⟨k, inside⟩ := m
      obtain ⟨more, rfl, hinside⟩ := markAt?_eq_some hmark
      rw [h more ((List.suffix_append _ _).trans hrest)] at hinside
      cases hinside

theorem unmarked_iff {cs : List Char} :
    Unmarked cs ↔ (∀ rest ∈ cs.tails, markAt? rest = none) ∧ ¬ ['\\', '['] <:+: cs ∧
      withEmoji cs = cs := by
  simp only [List.mem_tails]
  exact ⟨fun h => ⟨untagged_iff.mpr h.tag, h.bracket, h.emoji⟩,
    fun ⟨htag, hbracket, hemoji⟩ => ⟨untagged_iff.mp htag, hbracket, hemoji⟩⟩

instance : DecidablePred Unmarked := fun _ => decidable_of_iff _ unmarked_iff.symm

/-! ## Pieces -/

theorem piecesFrom_skip (before : List Char) (skip : Nat) (cs : List Char) :
    piecesFrom before skip cs = piecesFrom before 0 (cs.drop skip) := by
  induction skip generalizing cs with
  | zero => rfl
  | succ skip ih =>
    cases cs with
    | nil => rfl
    | cons c cs => rw [piecesFrom, ih, List.drop_succ_cons]

/-- A text up to its first tag, the backslashes before the tag, its inside and the rest. -/
structure FirstTag (cs front : List Char) (k : Nat) (inside rest : List Char) : Prop where
  eq : cs = front ++ (List.replicate k '\\' ++ '[' :: (inside ++ ']' :: rest))
  tag : tagInside? (inside ++ ']' :: rest) = some inside
  slash : front.getLast? ≠ some '\\'

theorem exists_firstTag {cs inside : List Char} {k : Nat} (h : markAt? cs = some (k, inside)) :
    ∃ rest, FirstTag cs [] k inside rest := by
  obtain ⟨more, rfl, hinside⟩ := markAt?_eq_some h
  obtain ⟨rest, rfl⟩ := tagInside?_eq_some hinside
  exact ⟨rest, rfl, hinside, nofun⟩

theorem FirstTag.drop {c : Char} {cs inside rest : List Char} {k : Nat}
    (h : FirstTag (c :: cs) [] k inside rest) : cs.drop (k + inside.length + 1) = rest := by
  have hsplit : c :: cs = (List.replicate k '\\' ++ '[' :: (inside ++ [']'])) ++ rest := by
    simp [h.eq]
  have hlength : (List.replicate k '\\' ++ '[' :: (inside ++ [']'])).length =
      k + inside.length + 1 + 1 := by
    simp
    omega
  have hdrop := @List.drop_left' _ _ rest _ hlength
  rwa [← hsplit, List.drop_succ_cons] at hdrop

/-- Before the first tag, and before its backslashes, there may be more text. -/
theorem FirstTag.cons {cs front inside rest : List Char} {k : Nat} {c : Char}
    (h : FirstTag cs front k inside rest) (hnone : markAt? (c :: cs) = none) :
    FirstTag (c :: cs) (c :: front) k inside rest where
  eq := congrArg (c :: ·) h.eq
  tag := h.tag
  slash := by
    cases front with
    | nil =>
      intro hslash
      obtain rfl : c = '\\' := Option.some.inj hslash
      have hmark := markAt?_slashes (k + 1) (inside ++ ']' :: rest)
      rw [h.tag, List.replicate_succ, List.cons_append] at hmark
      rw [h.eq, List.nil_append, hmark] at hnone
      cases hnone
    | cons d front =>
      rw [List.getLast?_cons_cons]
      exact h.slash

/-- A text has no tag, or is taken apart at the first. -/
theorem piecesFrom_cases (before cs : List Char) :
    Untagged cs ∧ piecesFrom before 0 cs = textPiece (before.reverse ++ cs) ∨
      ∃ front k inside rest, FirstTag cs front k inside rest ∧ piecesFrom before 0 cs =
        textPiece (before.reverse ++ front) ++ (markPieces k inside ++ pieces rest) := by
  induction cs generalizing before with
  | nil =>
    refine .inl ⟨fun rest hrest => ?_, by rw [piecesFrom, List.append_nil]⟩
    rw [List.suffix_nil.mp hrest]
    rfl
  | cons c cs ih =>
    cases hmark : markAt? (c :: cs) with
    | some m =>
      obtain ⟨k, inside⟩ := m
      obtain ⟨rest, hfirst⟩ := exists_firstTag hmark
      refine .inr ⟨[], k, inside, rest, hfirst, ?_⟩
      rw [piecesFrom, hmark]
      dsimp only
      rw [List.append_nil, List.append_assoc, piecesFrom_skip, hfirst.drop, pieces]
    | none =>
      have hreverse : ∀ ds, (c :: before).reverse ++ ds = before.reverse ++ c :: ds := by simp
      have hstep : piecesFrom before 0 (c :: cs) = piecesFrom (c :: before) 0 cs := by
        rw [piecesFrom, hmark]
      rw [hstep]
      rcases ih (c :: before) with ⟨huntagged, hpieces⟩ | ⟨front, k, inside, rest, hfirst, hpieces⟩
      · refine .inl ⟨fun rest hrest => ?_, by rw [hpieces, hreverse]⟩
        rcases List.suffix_cons_iff.mp hrest with rfl | hrest
        · exact hmark
        · exact huntagged rest hrest
      · exact .inr ⟨c :: front, k, inside, rest, hfirst.cons hmark, by rw [hpieces, hreverse]⟩

theorem pieces_cases (cs : List Char) :
    Untagged cs ∧ pieces cs = textPiece cs ∨
      ∃ front k inside rest, FirstTag cs front k inside rest ∧
        pieces cs = textPiece front ++ (markPieces k inside ++ pieces rest) :=
  piecesFrom_cases [] cs

/-! ## Calm texts taken apart -/

/-- Backslashes before a bracket come in pairs. -/
theorem calm_of_slashes {k : Nat} {rest : List Char}
    (h : Calm (List.replicate k '\\' ++ '[' :: rest)) : ∃ j, k = 2 * j ∧ Calm rest := by
  induction k using Nat.strong_induction_on with
  | h k ih =>
    match k, h with
    | 0, h =>
      cases h with
      | plain _ _ h => exact ⟨0, rfl, h⟩
    | 1, h =>
      cases h with
      | plain hslash => exact absurd rfl hslash
      | escape he => cases he
    | k + 2, h =>
      cases h with
      | plain hslash => exact absurd rfl hslash
      | escape _ h =>
        obtain ⟨j, rfl, hrest⟩ := ih k (by omega) h
        exact ⟨j + 1, by omega, hrest⟩

/-- Before and after the first tag of a calm text it is calm, and the backslashes before
the tag come in pairs. -/
theorem FirstTag.calm {cs front inside rest : List Char} {k : Nat}
    (h : FirstTag cs front k inside rest) (hcs : Calm cs) :
    Calm front ∧ (∃ j, k = 2 * j) ∧ Calm rest := by
  have hsplit : Calm front ∧ Calm (List.replicate k '\\' ++ '[' :: (inside ++ ']' :: rest)) := by
    have heq := h.eq
    cases k with
    | zero => exact calm_of_append (heq ▸ hcs) (by decide) (by decide) (.inl (by decide))
    | succ k => exact calm_of_append (heq ▸ hcs) (by decide) (by decide) (.inr h.slash)
  obtain ⟨j, hk, hinside⟩ := calm_of_slashes hsplit.2
  obtain ⟨-, hclose⟩ := calm_of_append hinside (by decide) (by decide) (.inl (by decide))
  cases hclose with
  | plain _ _ hrest => exact ⟨hsplit.1, ⟨j, hk⟩, hrest⟩

/-! ## Printing -/

theorem isMute_of_isInk {c : Char} (h : isInk c = true) : isMute c = false := by
  simp only [isInk, Bool.or_eq_true, decide_eq_true_eq, beq_iff_eq] at h
  rcases h with h | rfl
  · simp only [isMute, List.contains_eq_mem, decide_eq_false_iff_not, List.mem_cons,
      List.not_mem_nil, or_false]
    omega
  · rfl

theorem ne_tab_of_isInk {c : Char} (h : isInk c = true) : c ≠ '\t' := by
  rintro rfl
  cases h

theorem filter_of_isInk {cs : List Char} (h : ∀ c ∈ cs, isInk c = true) :
    cs.filter (!isMute ·) = cs :=
  List.filter_eq_self.mpr fun c hc => by rw [isMute_of_isInk (h c hc)]; rfl

/-- A calm text between tags is printed without what is taken away. -/
theorem exists_printed_of_calm {cs : List Char} (h : Calm cs) :
    ∃ changed, Printed changed cs (printed cs) ∧ printed cs = withEmoji (freeBrackets cs) := by
  obtain ⟨changed, hemojied⟩ := exists_emojied 0 (freeBrackets cs)
  obtain ⟨changed', hprinted⟩ := exists_printed_of_emojied h hemojied
  have heq : printed cs = withEmoji (freeBrackets cs) :=
    filter_of_isInk (hprinted.isInk h.isInk)
  exact ⟨changed', heq ▸ hprinted, heq⟩

theorem withEmoji_of_not_mem {cs : List Char} (h : ':' ∉ cs) : withEmoji cs = cs := by
  obtain ⟨changed, hemojied⟩ := exists_emojied 0 cs
  rw [List.drop_zero, ← List.append_nil cs] at hemojied
  obtain ⟨rest, hrest, hnil⟩ := hemojied.exists_of_append h
  cases hnil
  rw [withEmoji]
  simpa using hrest

/-- Text without markup is printed as it is. -/
theorem printed_eq_self {cs : List Char} (hink : ∀ c ∈ cs, isInk c = true)
    (hbracket : ¬ ['\\', '['] <:+: cs) (hemoji : withEmoji cs = cs) : printed cs = cs := by
  have hfree : freeBrackets cs = cs :=
    (freeBrackets_cases cs).elim (fun h => absurd h.1 hbracket) fun h => h.2
  rw [printed, hfree, hemoji, filter_of_isInk hink]

theorem plainFrom_textPiece (opened : List String) (cs : List Char) (ps : List Piece) :
    plainFrom opened (textPiece cs ++ ps) = (plainFrom opened ps).map (printed cs ++ ·) := by
  rw [textPiece]
  split
  · rename_i hempty
    rw [List.isEmpty_iff.mp hempty, List.nil_append]
    cases plainFrom opened ps <;> rfl
  · rfl

theorem printed_slashes (k : Nat) : printed (List.replicate k '\\') = List.replicate k '\\' := by
  have hnot : ∀ c, c ≠ '\\' → c ∉ List.replicate k '\\' := fun c hc hmem =>
    hc (List.eq_of_mem_replicate hmem)
  refine printed_eq_self (fun c hc => List.eq_of_mem_replicate hc ▸ rfl) (fun hmark => ?_)
    (withEmoji_of_not_mem (hnot ':' (by decide)))
  exact hnot '[' (by decide) (hmark.subset (by simp))

/-- Of the backslashes before a tag half are left, if they come in pairs. -/
theorem exists_of_plainFrom_markPieces {opened : List String} {j : Nat} {inside p : List Char}
    {ps : List Piece} (h : plainFrom opened (markPieces (2 * j) inside ++ ps) = .ok p) :
    ∃ opened' q, plainFrom opened' ps = .ok q ∧ p = List.replicate j '\\' ++ q := by
  have hpieces : markPieces (2 * j) inside =
      textPiece (List.replicate j '\\') ++ [.tag inside] := by
    rw [markPieces, Nat.mul_div_cancel_left j (by decide), Nat.mul_mod_right]
    rfl
  rw [hpieces, List.append_assoc, plainFrom_textPiece, printed_slashes, List.singleton_append,
    plainFrom] at h
  cases hafter : afterTag opened inside with
  | error e =>
    rw [hafter] at h
    cases h
  | ok opened' =>
    rw [hafter] at h
    cases hrest : plainFrom opened' ps with
    | error e =>
      rw [Except.bind, hrest] at h
      cases h
    | ok q =>
      rw [Except.bind, hrest] at h
      exact ⟨opened', q, hrest, (Except.ok.inj h).symm⟩

/-- What is printed of a calm text. -/
theorem exists_printed_of_plainFrom {cs p : List Char} {opened : List String} (h : Calm cs)
    (hp : plainFrom opened (pieces cs) = .ok p) :
    ∃ changed, Printed changed cs p ∧ (changed = false → Unmarked cs) := by
  induction hlength : cs.length using Nat.strong_induction_on generalizing cs p opened with
  | h n ih =>
    subst hlength
    rcases pieces_cases cs with ⟨huntagged, hpieces⟩ | ⟨front, k, inside, rest, hfirst, hpieces⟩
    · rw [hpieces, ← List.append_nil (textPiece cs), plainFrom_textPiece] at hp
      obtain rfl : printed cs ++ [] = p := Except.ok.inj hp
      obtain ⟨changed, hprinted, heq⟩ := exists_printed_of_calm h
      rw [List.append_nil]
      refine ⟨changed, hprinted, fun hchanged => ?_⟩
      have hself := hprinted.eq hchanged
      obtain ⟨hbracket, hemoji⟩ := of_withEmoji_freeBrackets_eq (heq.symm.trans hself)
      exact ⟨untagged_iff.mp huntagged, hbracket, hemoji⟩
    · obtain ⟨hfront, ⟨j, rfl⟩, hrest⟩ := hfirst.calm h
      rw [hpieces, plainFrom_textPiece] at hp
      cases hmark : plainFrom opened (markPieces (2 * j) inside ++ pieces rest) with
      | error e =>
        rw [hmark] at hp
        cases hp
      | ok q =>
        rw [hmark] at hp
        obtain rfl := Except.ok.inj hp
        obtain ⟨opened', p, hafter, rfl⟩ := exists_of_plainFrom_markPieces hmark
        have hlt : rest.length < cs.length := by
          rw [hfirst.eq]
          simp
          omega
        obtain ⟨_, hprinted, -⟩ := ih _ hlt hrest hafter rfl
        obtain ⟨changed, hbefore, -⟩ := exists_printed_of_calm hfront
        refine ⟨true, ?_, nofun⟩
        rw [hfirst.eq, ← Bool.or_true changed]
        exact hbefore.append (.tag hprinted)

/-- Text without markup is printed as it is. -/
theorem plain_of_unmarked {text : String} (hink : ∀ c ∈ text.toList, isInk c = true)
    (h : Unmarked text.toList) : plain text = .ok text.toList := by
  rw [plain]
  rcases pieces_cases text.toList with ⟨-, hpieces⟩ | ⟨front, k, inside, rest, hfirst, -⟩
  · rw [hpieces, ← List.append_nil (textPiece _), plainFrom_textPiece,
      printed_eq_self hink h.bracket h.emoji, plainFrom]
    exact congrArg _ (List.append_nil _)
  · have hsuffix : '[' :: (inside ++ ']' :: rest) <:+ text.toList := by
      rw [hfirst.eq, ← List.append_assoc]
      exact List.suffix_append _ _
    have hnone := h.tag _ hsuffix
    rw [hfirst.tag] at hnone
    cases hnone

/-- Only tabs are expanded. -/
theorem expandTabs_of_isInk {cs : List Char} (h : ∀ c ∈ cs, isInk c = true) (column : Nat) :
    expandTabs column cs = cs := by
  induction cs generalizing column with
  | nil => rfl
  | cons c cs ih =>
    obtain ⟨hc, hcs⟩ := List.forall_mem_cons.mp h
    rw [expandTabs, ih hcs, ih hcs, if_neg (mt beq_iff_eq.mp (ne_tab_of_isInk hc)), ite_self]

/-- What is left of a text is printed as it is if its lines fit. -/
theorem line_of_plain {width : Nat} {text : String} {p : List Char} (hplain : plain text = .ok p)
    (hink : ∀ c ∈ p, isInk c = true) (hfits : Fits width p) :
    line width text = .ok (String.ofList p ++ "\n") := by
  rw [line, hplain, Except.map, if_neg hfits.pos.ne', expandTabs_of_isInk hink, wrap_eq_self hfits,
    String.ofList_append]

/-- Of a calm text with markup something is taken away before its lines are folded, unless
nothing is printed. -/
theorem exists_printed_of_line {width : Nat} {text output : String} (h : Calm text.toList)
    (hmarked : ¬ Unmarked text.toList) (hline : line width text = .ok output) :
    output = "" ∨
      ∃ p, Printed true (text ++ "\n").toList p ∧ Folded p output.toList := by
  cases hplain : plain text with
  | error e =>
    rw [line, hplain] at hline
    cases hline
  | ok p =>
    obtain ⟨changed, hprinted, himp⟩ := exists_printed_of_plainFrom h hplain
    obtain rfl : changed = true := Bool.eq_true_of_not_eq_false fun hc => hmarked (himp hc)
    rw [line, hplain, Except.map, expandTabs_of_isInk (hprinted.isInk h.isInk)] at hline
    obtain rfl := Except.ok.inj hline
    split
    · exact .inl rfl
    · rename_i hwidth
      have hfeed : Printed false ['\n'] ['\n'] := .plain (by decide) .nil
      have hfolded := folded_wrap (Nat.pos_of_ne_zero hwidth) p
      refine .inr ⟨p ++ ['\n'], by simpa using hprinted.append hfeed, ?_⟩
      rwa [String.toList_ofList]

end RouteDoc.Console
