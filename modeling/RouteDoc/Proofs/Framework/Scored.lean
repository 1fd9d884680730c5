import Mathlib.Data.List.Induction
import RouteDoc.Framework.Classify
import RouteDoc.Proofs.Number.Format
import RouteDoc.Proofs.Text.Pattern

/-!
# Scores of frameworks

Whatever a framework is recognised by counts more than all hints together, so
that the score of a content tells one from the other.

* `Weighty`: a framework whose signs count that much, as `weighty_builtin` says
  of those known from the start;
* `Weighty.le_score`, `score_of_unsigned`: the score of a content that shows a
  sign of a framework, and of one that does not;
* `FirstBest`, `best_eq_some_iff`: looking at one score after the other finds the first of
  those that are greatest;
* `best_perm`: the best of the scores in another order;
* `hasRoutes_classify`: the verdict that the best score gives.
-/

namespace RouteDoc.Framework

open Number (Binary64)
open Number.Binary64
open Text (Pattern)

/-! ## Counting patterns -/

/-- Patterns are found where one of them occurs. -/
theorem occurrences_pos {patterns : List Pattern} {content : List Char} :
    0 < occurrences patterns content ↔ ∃ p ∈ patterns, p.occursIn content = true := by
  have hsum : occurrences patterns content = (patterns.map (·.count content)).sum := by
    rw [occurrences, List.sum_eq_foldl, List.foldl_map]
  rw [hsum, List.sum_pos_iff_exists_pos_nat]
  simp only [List.mem_map, exists_exists_and_eq_and, Nat.pos_iff_ne_zero, Pattern.count_ne_zero]

theorem hits_le (patterns : List Pattern) (content : List Char) :
    hits patterns content ≤ patterns.length := List.countP_le_length

/-! ## The parts of a score -/

/-- What a framework counts for being loaded or not. -/
def importTotal (s : Signature) (found : Bool) : Binary64 :=
  if found then .zero false + s.importWeight else .zero false

/-- A total with what route patterns add that are found so many times. -/
def routeTotal (weight : Binary64) (counts : List Nat) (total : Binary64) : Binary64 :=
  counts.foldl (fun t n => if n == 0 then t else t + weight * .ofInt (Nat.min n 3 : Nat)) total

/-- What hints add. -/
def hintWeight (n : Nat) : Binary64 := Binary64.min (.ofInt n * tenths 1) (tenths 3)

/-- A total with what hints add. -/
def hintTotal (n : Nat) (total : Binary64) : Binary64 :=
  if n == 0 then total else total + hintWeight n

theorem score_score (content : List Char) (s : Signature) :
    (score content s).score = hintTotal (hits apiHints content)
      (routeTotal s.routeWeight (s.routes.map (·.count content))
        (importTotal s (s.imports.any (·.occursIn content)))) := rfl

/-- What every sign of a framework counts at least: nine sixteenths. -/
def weighty : Binary64 := .finite false 9 (-4)

theorem nonneg_of_weighty {x : Binary64} (h : value weighty ≤ value x) : Nonneg x :=
  le_trans ((lt_eq_false_iff (by decide) (by decide)).mp (by decide +kernel)) h

/-- A framework of which every sign counts much. -/
structure Weighty (s : Signature) : Prop where
  import_le : value weighty ≤ value s.importWeight
  route_le : ∀ n ∈ [1, 2, 3], value weighty ≤ value (s.routeWeight * .ofInt (n : Nat))

theorem weighty_builtin : ∀ s ∈ builtin, Weighty s := by
  have hweights : ∀ s ∈ builtin, (s.importWeight ≠ .nan ∧ lt s.importWeight weighty = false) ∧
      ∀ n ∈ [1, 2, 3], s.routeWeight * .ofInt (n : Nat) ≠ .nan ∧
        lt (s.routeWeight * .ofInt (n : Nat)) weighty = false := by
    decide +kernel
  intro s hs
  obtain ⟨⟨hne, hlt⟩, hroutes⟩ := hweights s hs
  refine ⟨(lt_eq_false_iff hne (by decide)).mp hlt, fun n hn => ?_⟩
  exact (lt_eq_false_iff (hroutes n hn).1 (by decide)).mp (hroutes n hn).2

/-- Hints do not count against a framework. -/
theorem nonneg_hintWeight {n : Nat} (h : n ≤ apiHints.length) : Nonneg (hintWeight n) := by
  have hweights : ∀ n ∈ List.range 13, hintWeight n ≠ .nan ∧
      lt (hintWeight n) (zero false) = false := by
    decide +kernel
  have hn : n ∈ List.range 13 := List.mem_range.mpr (Nat.lt_succ_of_le h)
  exact (lt_eq_false_iff (hweights n hn).1 (by decide)).mp (hweights n hn).2

/-- Hints alone do not count enough. -/
theorem lt_hintTotal {n : Nat} (h : n ≤ apiHints.length) :
    lt (tenths 5) (hintTotal n (zero false)) = false := by
  have htotals : ∀ n ∈ List.range 13, lt (tenths 5) (hintTotal n (zero false)) = false := by
    decide +kernel
  exact htotals n (List.mem_range.mpr (Nat.lt_succ_of_le h))

/-! ## Totals -/

/-- Hints take nothing from a total. -/
theorem le_hintTotal {c : Binary64} (hc : InFormat c) {n : Nat} (hn : n ≤ apiHints.length)
    {total : Binary64} (htotal : Nonneg total) :
    Nonneg (hintTotal n total) ∧
      (value c ≤ value total → value c ≤ value (hintTotal n total)) := by
  rw [hintTotal]
  split
  · exact ⟨htotal, id⟩
  · exact ⟨nonneg_add htotal (nonneg_hintWeight hn),
      fun h => le_add hc htotal (nonneg_hintWeight hn) (.inl h)⟩

theorem nonneg_importTotal {s : Signature} (h : Nonneg s.importWeight) (found : Bool) :
    Nonneg (importTotal s found) := by
  cases found with
  | true => exact nonneg_add nonneg_zero h
  | false => exact nonneg_zero

/-- A pattern that is found counts once, twice or three times. -/
theorem min_three_mem {n : Nat} (hn : n ≠ 0) : Nat.min n 3 ∈ [1, 2, 3] := by
  have hmin : Nat.min n 3 = 1 ∨ Nat.min n 3 = 2 ∨ Nat.min n 3 = 3 := by
    show min n 3 = 1 ∨ min n 3 = 2 ∨ min n 3 = 3
    omega
  simpa using hmin

/-- Route patterns take nothing from a total, and add to it where one is found. -/
theorem le_routeTotal {c : Binary64} (hc : InFormat c) {weight : Binary64}
    (hweight : ∀ n ∈ [1, 2, 3], Nonneg (weight * .ofInt (n : Nat))) (counts : List Nat)
    {total : Binary64} (htotal : Nonneg total) :
    Nonneg (routeTotal weight counts total) ∧
      (value c ≤ value total ∨ (∃ n ∈ counts, n ≠ 0) ∧
          (∀ n ∈ [1, 2, 3], value c ≤ value (weight * .ofInt (n : Nat))) →
        value c ≤ value (routeTotal weight counts total)) := by
  induction counts generalizing total with
  | nil => exact ⟨htotal, fun h => h.resolve_right (by simp)⟩
  | cons n counts ih =>
    rw [routeTotal, List.foldl_cons, ← routeTotal]
    rcases Nat.eq_zero_or_pos n with rfl | hn
    · obtain ⟨hnonneg, hle⟩ := ih htotal
      refine ⟨hnonneg, fun h => hle (h.imp_right (And.imp_left ?_))⟩
      rintro ⟨m, hm, hne⟩
      exact ⟨m, (List.mem_cons.mp hm).resolve_left hne, hne⟩
    · have hadded := hweight _ (min_three_mem hn.ne')
      rw [if_neg (by simpa using hn.ne')]
      obtain ⟨hnonneg, hle⟩ := ih (nonneg_add htotal hadded)
      refine ⟨hnonneg, fun h => hle (.inl (le_add hc htotal hadded ?_))⟩
      exact h.imp_right fun ⟨_, hcounts⟩ => hcounts _ (min_three_mem hn.ne')

/-- A score is not negative, and counts at least what a sign counts that is found. -/
theorem le_score_of_sign {c : Binary64} (hc : InFormat c) {s : Signature}
    (himport : Nonneg s.importWeight)
    (hroute : ∀ n ∈ [1, 2, 3], Nonneg (s.routeWeight * .ofInt (n : Nat))) (content : List Char) :
    Nonneg (score content s).score ∧
      ((∃ p ∈ s.imports, p.occursIn content = true) ∧ value c ≤ value s.importWeight ∨
          (∃ p ∈ s.routes, p.occursIn content = true) ∧
            (∀ n ∈ [1, 2, 3], value c ≤ value (s.routeWeight * .ofInt (n : Nat))) →
        value c ≤ value (score content s).score) := by
  rw [score_score]
  obtain ⟨hroutes, hle⟩ := le_routeTotal hc hroute (s.routes.map (·.count content))
    (nonneg_importTotal himport (s.imports.any (·.occursIn content)))
  obtain ⟨htotal, hhints⟩ := le_hintTotal hc (hits_le apiHints content) hroutes
  refine ⟨htotal, fun h => hhints (hle (h.imp ?_ (And.imp_left ?_)))⟩
  · rintro ⟨⟨p, hp, hoccurs⟩, hcounts⟩
    rw [List.any_eq_true.mpr ⟨p, hp, hoccurs⟩]
    exact le_add hc nonneg_zero himport (.inr hcounts)
  · rintro ⟨p, hp, hoccurs⟩
    exact ⟨_, List.mem_map_of_mem hp, Pattern.count_ne_zero.mpr hoccurs⟩

/-- A score is not negative, and large where a sign of the framework is found. -/
theorem Weighty.le_score {s : Signature} (hs : Weighty s) (content : List Char) :
    Nonneg (score content s).score ∧
      ((∃ p ∈ s.imports ++ s.routes, p.occursIn content = true) →
        value weighty ≤ value (score content s).score) := by
  have hweighty : InFormat weighty := by decide
  obtain ⟨hnonneg, hle⟩ := le_score_of_sign hweighty (nonneg_of_weighty hs.import_le)
    (fun n hn => nonneg_of_weighty (hs.route_le n hn)) content
  refine ⟨hnonneg, ?_⟩
  rintro ⟨p, hp, hoccurs⟩
  exact hle ((List.mem_append.mp hp).imp (fun hp => ⟨⟨p, hp, hoccurs⟩, hs.import_le⟩)
    fun hp => ⟨⟨p, hp, hoccurs⟩, hs.route_le⟩)

/-- Where no sign of a framework is found, its score is that of the hints. -/
theorem score_of_unsigned (content : List Char) (s : Signature)
    (h : ∀ p ∈ s.imports ++ s.routes, p.occursIn content = false) :
    (score content s).occurrences = 0 ∧ lt (tenths 5) (score content s).score = false := by
  have himports : s.imports.any (·.occursIn content) = false :=
    List.any_eq_false.mpr fun p hp =>
      Bool.eq_false_iff.mp (h p (List.mem_append_left _ hp))
  have hcounts : ∀ counts : List Nat, (∀ n ∈ counts, n = 0) → ∀ total,
      routeTotal s.routeWeight counts total = total := by
    intro counts hcounts total
    induction counts with
    | nil => rfl
    | cons n counts ih =>
      obtain rfl := hcounts n List.mem_cons_self
      exact ih fun n hn => hcounts n (List.mem_cons_of_mem _ hn)
  constructor
  · by_contra hne
    obtain ⟨p, hp, hoccurs⟩ := occurrences_pos.mp (Nat.pos_of_ne_zero hne)
    rw [h p (List.mem_append_right _ hp)] at hoccurs
    cases hoccurs
  · rw [score_score, himports, hcounts]
    · exact lt_hintTotal (hits_le apiHints content)
    · intro n hn
      obtain ⟨p, hp, rfl⟩ := List.mem_map.mp hn
      by_contra hne
      have hoccurs := Pattern.count_ne_zero.mp hne
      rw [h p (List.mem_append_right _ hp)] at hoccurs
      cases hoccurs

/-! ## The best of some scores -/

theorem better_cases (start : Option Score) (next : Score) :
    better start next = start ∨ better start next = some next := by
  unfold better
  split
  · exact .inl rfl
  · split
    · exact .inr rfl
    · split
      · exact .inr rfl
      · exact .inl rfl

/-- The best score is one of those compared. -/
theorem mem_of_best {scores : List Score} {b : Score} (h : best scores = some b) : b ∈ scores := by
  have hfold : ∀ start, scores.foldl better start = some b → start = some b ∨ b ∈ scores := by
    clear h
    induction scores with
    | nil => exact fun start h => .inl h
    | cons next scores ih =>
      intro start h
      rcases ih _ h with hb | hb
      · rcases better_cases start next with he | he
        · exact .inl (he ▸ hb)
        · rw [he] at hb
          exact .inr (Option.some.inj hb ▸ List.mem_cons_self)
      · exact .inr (List.mem_cons_of_mem _ hb)
  exact (hfold none h).resolve_left nofun

/-- A positive score that is greater than all before it and not less than any after it. -/
def FirstBest (scores : List Score) (b : Score) : Prop :=
  lt (zero false) b.score = true ∧ ∃ front rest, scores = front ++ b :: rest ∧
    (∀ t ∈ front, lt t.score b.score = true) ∧ ∀ t ∈ rest, lt b.score t.score = false

namespace FirstBest

variable {scores : List Score} {b c t : Score}

theorem mem (h : FirstBest scores b) : b ∈ scores := by
  obtain ⟨-, front, rest, rfl, -, -⟩ := h
  exact List.mem_append_right front List.mem_cons_self

theorem not_lt (h : FirstBest scores b) (ht : t ∈ scores) : lt b.score t.score = false := by
  obtain ⟨-, front, rest, rfl, hfront, hrest⟩ := h
  rcases List.mem_append.mp ht with ht | ht
  · exact lt_eq_false_of_lt (hfront t ht)
  · rcases List.mem_cons.mp ht with rfl | ht
    · exact lt_self t.score
    · exact hrest t ht

theorem unique (hb : FirstBest scores b) (hc : FirstBest scores c) : b = c := by
  obtain ⟨-, front, rest, rfl, hfront, -⟩ := id hb
  obtain ⟨-, front', rest', heq, hfront', -⟩ := id hc
  rcases List.append_eq_append_iff.mp heq with ⟨between, hsplit, htail⟩ | ⟨between, hsplit, htail⟩
  · cases between with
    | nil => exact (List.cons.inj htail).1
    | cons d between =>
      -- Then `b` stands before `c` and is less, but it is as great as any.
      obtain rfl : b = d := (List.cons.inj htail).1
      have hless := hfront' b (hsplit ▸ List.mem_append_right _ List.mem_cons_self)
      rw [hb.not_lt hc.mem] at hless
      cases hless
  · cases between with
    | nil => exact (List.cons.inj htail).1.symm
    | cons d between =>
      obtain rfl : c = d := (List.cons.inj htail).1
      have hless := hfront c (hsplit ▸ List.mem_append_right _ List.mem_cons_self)
      rw [hc.not_lt hb.mem] at hless
      cases hless

theorem concat (h : FirstBest scores b) (ht : lt b.score t.score = false) :
    FirstBest (scores ++ [t]) b := by
  obtain ⟨hpos, front, rest, rfl, hfront, hrest⟩ := h
  refine ⟨hpos, front, rest ++ [t], by simp, hfront, fun u hu => ?_⟩
  rcases List.mem_append.mp hu with hu | hu
  · exact hrest u hu
  · obtain rfl := List.mem_singleton.mp hu
    exact ht

theorem last (hpos : lt (zero false) t.score = true)
    (h : ∀ u ∈ scores, lt u.score t.score = true) : FirstBest (scores ++ [t]) t :=
  ⟨hpos, scores, [], rfl, h, nofun⟩

end FirstBest

section Numbers

variable {scores : List Score} {b t : Score}

theorem better_of_not_pos (ht : t.score ≠ .nan) (h : lt (zero false) t.score = false)
    (start : Option Score) : better start t = start := by
  have hle := (lt_eq_false_iff nonneg_zero.ne_nan ht).mp h
  unfold better
  rw [if_pos ((lt_or_eq_iff ht nonneg_zero.ne_nan).mpr hle)]

theorem better_of_pos (ht : t.score ≠ .nan) (h : lt (zero false) t.score = true)
    (start : Option Score) :
    better start t = if start.any (fun b => !lt b.score t.score) then start else some t := by
  have hpos := (lt_iff nonneg_zero.ne_nan ht).mp h
  unfold better
  rw [if_neg fun hle => hpos.not_ge ((lt_or_eq_iff ht nonneg_zero.ne_nan).mp hle)]
  cases start with
  | none => rfl
  | some b => cases hlt : lt b.score t.score <;> simp [hlt]

/-- What is found by looking at one score after the other is the first of those that are
greatest, and nothing if none is positive. -/
theorem best_spec (scores : List Score) (hnan : ∀ t ∈ scores, t.score ≠ .nan) :
    (∀ b, best scores = some b → FirstBest scores b) ∧
      (best scores = none → ∀ t ∈ scores, lt (zero false) t.score = false) := by
  induction scores using List.reverseRecOn with
  | nil => exact ⟨nofun, nofun⟩
  | append_singleton scores t ih =>
    have ht : t.score ≠ .nan := hnan t (by simp)
    have hscores : ∀ u ∈ scores, u.score ≠ .nan := fun u hu => hnan u (by simp [hu])
    obtain ⟨hsome, hnone⟩ := ih hscores
    have hstep : best (scores ++ [t]) = better (best scores) t := by
      rw [best, List.foldl_append]
      rfl
    rw [hstep]
    cases hpos : lt (zero false) t.score with
    | false =>
      rw [better_of_not_pos ht hpos]
      constructor
      · intro b hb
        refine (hsome b hb).concat (Bool.eq_false_iff.mpr fun hlt => ?_)
        rw [lt_of_lt_of_lt (hsome b hb).1 hlt] at hpos
        cases hpos
      · intro h u hu
        rcases List.mem_append.mp hu with hu | hu
        · exact hnone h u hu
        · obtain rfl := List.mem_singleton.mp hu
          exact hpos
    | true =>
      rw [better_of_pos ht hpos]
      cases hbest : best scores with
      | none =>
        refine ⟨fun b hb => ?_, nofun⟩
        obtain rfl : t = b := Option.some.inj hb
        exact FirstBest.last hpos fun u hu => lt_of_not_lt (hscores u hu) (hnone hbest u hu) hpos
      | some b =>
        have hb := hsome b hbest
        cases hlt : lt b.score t.score with
        | false =>
          simp only [Option.any_some, hlt, Bool.not_false, if_true]
          refine ⟨fun c hc => ?_, nofun⟩
          obtain rfl : b = c := Option.some.inj hc
          exact hb.concat hlt
        | true =>
          simp only [Option.any_some, hlt, Bool.not_true, Bool.false_eq_true, if_false]
          refine ⟨fun c hc => ?_, nofun⟩
          obtain rfl : t = c := Option.some.inj hc
          exact FirstBest.last hpos fun u hu => lt_of_not_lt (hscores u hu) (hb.not_lt hu) hlt

theorem exists_best (hnan : ∀ t ∈ scores, t.score ≠ .nan) (ht : t ∈ scores)
    (hpos : lt (zero false) t.score = true) : ∃ b, best scores = some b ∧ FirstBest scores b := by
  cases hbest : best scores with
  | none =>
    rw [(best_spec scores hnan).2 hbest t ht] at hpos
    cases hpos
  | some b => exact ⟨b, rfl, (best_spec scores hnan).1 b hbest⟩

theorem best_eq_none_iff (hnan : ∀ t ∈ scores, t.score ≠ .nan) :
    best scores = none ↔ ∀ t ∈ scores, lt (zero false) t.score = false := by
  refine ⟨(best_spec scores hnan).2, fun h => ?_⟩
  by_contra hne
  obtain ⟨b, hb⟩ := Option.ne_none_iff_exists'.mp hne
  have hfirst := (best_spec scores hnan).1 b hb
  have hnot := h b hfirst.mem
  rw [hfirst.1] at hnot
  cases hnot

theorem best_eq_some_iff (hnan : ∀ t ∈ scores, t.score ≠ .nan) :
    best scores = some b ↔ FirstBest scores b := by
  refine ⟨(best_spec scores hnan).1 b, fun hfirst => ?_⟩
  obtain ⟨c, hc, hfirst'⟩ := exists_best hnan hfirst.mem hfirst.1
  rw [hc, hfirst'.unique hfirst]

/-- Other scores are not found in another order, unless they are as great. -/
theorem best_perm {others : List Score} (hnan : ∀ t ∈ scores, t.score ≠ .nan)
    (h : scores.Perm others) :
    best scores = best others ∨ ∃ b c, best scores = some b ∧ best others = some c ∧ b ≠ c ∧
      eq b.score c.score = true := by
  have hnan' : ∀ t ∈ others, t.score ≠ .nan := fun t ht => hnan t (h.mem_iff.mpr ht)
  cases hb : best scores with
  | none =>
    refine .inl ((best_eq_none_iff hnan').mpr fun t ht => ?_).symm
    exact (best_eq_none_iff hnan).mp hb t (h.mem_iff.mpr ht)
  | some b =>
    have hfirst := (best_eq_some_iff hnan).mp hb
    have hmem : b ∈ others := h.mem_iff.mp hfirst.mem
    obtain ⟨c, hc, hfirst'⟩ := exists_best hnan' hmem hfirst.1
    rw [hc]
    by_cases hbc : b = c
    · exact .inl (congrArg some hbc)
    · refine .inr ⟨b, c, rfl, rfl, hbc, ?_⟩
      have hbnan := hnan' b hmem
      have hcnan := hnan' c hfirst'.mem
      rw [eq_iff hbnan hcnan]
      apply le_antisymm
      · exact (lt_eq_false_iff hcnan hbnan).mp (hfirst'.not_lt hmem)
      · exact (lt_eq_false_iff hbnan hcnan).mp (hfirst.not_lt (h.mem_iff.mpr hfirst'.mem))

end Numbers

/-! ## Verdicts -/

/-- The scores of the frameworks examined, in order. -/
def examined (registry : Registry) (frameworks : List String) (content : List Char) : List Score :=
  (frameworks.filterMap registry.get?).map (score content)

/-- A content that is no test and no configuration is read for routes if the best
score is clear, or there are enough hints. -/
theorem hasRoutes_classify {content : List Char} (htest : looksLikeTest content = false)
    (hconfig : looksLikeConfig content = false) (registry : Registry) (frameworks : List String)
    (path : String) :
    (classify registry frameworks path content).hasRoutes = true ↔
      (∃ s, best (examined registry frameworks content) = some s ∧
        (0 < s.occurrences ∨ lt (tenths 5) s.score = true)) ∨ 2 < occurrences apiHints content := by
  rw [classify, if_neg (Bool.eq_false_iff.mp htest), if_neg (Bool.eq_false_iff.mp hconfig),
    ← examined]
  dsimp only
  cases best (examined registry frameworks content) with
  | none =>
    dsimp only
    split <;> rename_i hhints <;> simp [classify.byHints, hhints]
  | some s =>
    dsimp only
    split <;> rename_i hclear
    · have hclear : 0 < s.occurrences ∨ lt (tenths 5) s.score = true := by simpa using hclear
      simp [Score.verdict, hclear]
    · have hclear : ¬ (0 < s.occurrences ∨ lt (tenths 5) s.score = true) := by simpa using hclear
      split <;> rename_i hhints <;> simp [Score.verdict, classify.byHints, hclear, hhints]

end RouteDoc.Framework
