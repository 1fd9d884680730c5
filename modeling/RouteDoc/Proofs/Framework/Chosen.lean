import RouteDoc.Proofs.Framework.Scored

/-!
# The framework chosen

Of the frameworks examined the one is chosen whose score is greatest, and of several the
first. Names that no framework has and names given again play no part, and another order
may only lead to a framework of the same score.

* `best_known`: names without a framework, and names given again;
* `score_ne_nan`: scores of frameworks whose weights are finite;
* `classify_firstBest`: what the verdict depends on;
* `classify_nan_stays`: a framework that is chosen for a score that is no number.
-/

namespace RouteDoc.Framework

open Number (Binary64)
open Number.Binary64

/-! ## Names that play no part -/

theorem better_eq_self_iff {start : Option Score} {t : Score} :
    better start t = start ↔ (lt t.score (zero false) || eq t.score (zero false)) = true ∨
      ∃ b, start = some b ∧ lt b.score t.score = false := by
  unfold better
  split
  · rename_i hle
    exact iff_of_true rfl (.inl hle)
  · rename_i hle
    rw [or_iff_right hle]
    cases start with
    | none => simp
    | some b =>
      cases hlt : lt b.score t.score with
      | false => simp [hlt]
      | true =>
        have hne : t ≠ b := by
          rintro rfl
          rw [lt_self] at hlt
          cases hlt
        simp [hlt, hne]

theorem better_self (start : Option Score) (t : Score) :
    better (better start t) t = better start t := by
  rcases better_cases start t with h | h
  · rw [h, h]
  · rw [h]
    exact better_eq_self_iff.mpr (.inr ⟨t, rfl, lt_self t.score⟩)

/-- A score that changes nothing changes nothing after a better one either. -/
theorem better_keep {start : Option Score} {t : Score} (u : Score) (h : better start t = start) :
    better (better start u) t = better start u := by
  rcases better_eq_self_iff.mp h with hle | ⟨b, rfl, hnot⟩
  · exact better_eq_self_iff.mpr (.inl hle)
  · cases hlt : lt b.score u.score with
    | false => rw [better_eq_self_iff.mpr (.inr ⟨b, rfl, hlt⟩), h]
    | true =>
      rcases better_cases (some b) u with he | he
      · rw [he, h]
      · rw [he]
        refine better_eq_self_iff.mpr (.inr ⟨u, rfl, Bool.eq_false_iff.mpr fun hless => ?_⟩)
        rw [lt_of_lt_of_lt hlt hless] at hnot
        cases hnot

section Fold

variable {α β : Type} [BEq α] [LawfulBEq α] {f : β → α → β}

theorem foldl_filter_bne {x : α} (hkeep : ∀ b y, f b x = b → f (f b y) x = f b y) (xs : List α)
    {b : β} (h : f b x = b) : (xs.filter fun y => !y == x).foldl f b = xs.foldl f b := by
  induction xs generalizing b with
  | nil => rfl
  | cons y xs ih =>
    by_cases hyx : y = x
    · subst hyx
      rw [List.filter_cons_of_neg (by simp), List.foldl_cons, h]
      exact ih h
    · rw [List.filter_cons_of_pos (by simp [hyx]), List.foldl_cons, List.foldl_cons]
      exact ih (hkeep b y h)

/-- A loop gives the same without repetitions if an item that was taken once changes
nothing any more. -/
theorem foldl_eraseDups (hself : ∀ b x, f (f b x) x = f b x)
    (hkeep : ∀ b x y, f b x = b → f (f b y) x = f b y) (b : β) (xs : List α) :
    xs.eraseDups.foldl f b = xs.foldl f b := by
  match xs with
  | [] => rfl
  | x :: xs =>
    rw [List.eraseDups_cons, List.foldl_cons, List.foldl_cons, foldl_eraseDups hself hkeep,
      foldl_filter_bne (fun b y => hkeep b x y) xs (hself b x)]
termination_by xs.length
decreasing_by exact Nat.lt_succ_of_le (List.length_filter_le ..)

end Fold

/-- The names that frameworks have, each once. -/
def known (registry : Registry) (frameworks : List String) : List String :=
  (frameworks.filter fun id => registry.ids.contains id).eraseDups

/-- The best score after one more name. -/
def afterName (registry : Registry) (content : List Char) (start : Option Score) (id : String) :
    Option Score :=
  match registry.get? id with
  | some s => better start (score content s)
  | none => start

section Names

variable (registry : Registry) (frameworks : List String) (content : List Char)

theorem best_examined :
    best (examined registry frameworks content) =
      frameworks.foldl (afterName registry content) none := by
  rw [best, examined, List.foldl_map, List.foldl_filterMap]
  congr 1
  funext start id
  rw [afterName]
  cases registry.get? id <;> rfl

theorem afterName_of_unknown {id : String} (h : registry.ids.contains id = false)
    (start : Option Score) : afterName registry content start id = start := by
  have hnone : registry.get? id = none := by
    refine List.find?_eq_none.mpr fun s hs hid => ?_
    have hmem : registry.ids.contains id = true :=
      List.contains_iff_mem.mpr (List.mem_map.mpr ⟨s, hs, beq_iff_eq.mp hid⟩)
    rw [h] at hmem
    cases hmem
  rw [afterName, hnone]

theorem best_known :
    best (examined registry (known registry frameworks) content) =
      best (examined registry frameworks content) := by
  rw [best_examined, best_examined, known, foldl_eraseDups, List.foldl_filter]
  · congr 1
    funext start id
    split
    · rfl
    · rename_i h
      exact (afterName_of_unknown registry content (by simpa using h) start).symm
  · intro start id
    unfold afterName
    split
    · exact better_self start _
    · rfl
  · intro start id other h
    unfold afterName at h ⊢
    split at h
    · split
      · exact better_keep _ h
      · exact h
    · rfl

end Names

/-! ## Scores that are numbers -/

/-- A number that is finite or infinite with a sign. -/
def Within (a : Bool) (x : Binary64) : Prop := IsFinite x ∨ x = .infinite a

theorem Within.add {a : Bool} {x y : Binary64} (hx : Within a x) (hy : InFormat y)
    (hsign : y = .infinite a ∨ ∃ m e, y = .finite a m e) : Within a (x + y) := by
  rcases hx with hx | rfl
  · obtain ⟨hformat, b, n, f, rfl⟩ := isFinite_iff.mp hx
    rcases hsign with rfl | ⟨m, e, rfl⟩
    · exact .inr rfl
    · exact (finite_add_cases hformat hy).imp id And.right
  · rcases hsign with rfl | ⟨m, e, rfl⟩
    · exact .inr (by cases a <;> rfl)
    · exact .inr rfl

/-- Route patterns do not lead from one infinity to the other. -/
theorem within_routeTotal (a : Bool) (m : Nat) (e : Int) (counts : List Nat) {total : Binary64}
    (h : Within a total) : Within a (routeTotal (.finite a m e) counts total) := by
  induction counts generalizing total with
  | nil => exact h
  | cons n counts ih =>
    rw [routeTotal, List.foldl_cons, ← routeTotal]
    apply ih
    split
    · exact h
    · rename_i hn
      have hn : n ≠ 0 := by simpa using hn
      exact h.add (inFormat_mul _ _) (finite_mul_ofInt (min_three_mem hn) a m e)

theorem isFinite_importTotal {s : Signature} (h : IsFinite s.importWeight) (found : Bool) :
    IsFinite (importTotal s found) := by
  cases found with
  | false =>
    show IsFinite (zero false)
    decide
  | true =>
    obtain ⟨hformat, a, m, e, heq⟩ := isFinite_iff.mp h
    rw [heq] at hformat
    show IsFinite (zero false + s.importWeight)
    rw [heq]
    have hzero : toRat (.finite false 0 minExponent) = 0 := by simp [toRat_finite, signed]
    refine isFinite_add ?_
    rw [hzero, zero_add]
    exact hformat.abs_le

theorem hintTotal_ne_nan {n : Nat} (hn : n ≤ apiHints.length) {total : Binary64}
    (h : total ≠ .nan) : hintTotal n total ≠ .nan := by
  have hweights : ∀ n ∈ List.range 13, IsFinite (hintWeight n) := by decide +kernel
  rw [hintTotal]
  split
  · exact h
  · exact add_ne_nan h (hweights n (List.mem_range.mpr (Nat.lt_succ_of_le hn)))

theorem score_ne_nan {s : Signature} (himport : IsFinite s.importWeight)
    (hroute : IsFinite s.routeWeight) (content : List Char) :
    (score content s).score ≠ .nan := by
  obtain ⟨-, a, m, e, heq⟩ := isFinite_iff.mp hroute
  have hwithin := within_routeTotal a m e (s.routes.map (·.count content))
    (.inl (isFinite_importTotal himport (s.imports.any (·.occursIn content))))
  rw [score_score, heq]
  refine hintTotal_ne_nan (hits_le apiHints content) ?_
  rcases hwithin with hfinite | hinfinite
  · obtain ⟨-, b, n, f, hfinite⟩ := isFinite_iff.mp hfinite
    rw [hfinite]
    exact nofun
  · rw [hinfinite]
    exact nofun

/-! ## Verdicts -/

section Verdicts

variable {registry : Registry} {frameworks others : List String} {content : List Char}

theorem mem_examined {t : Score} :
    t ∈ examined registry frameworks content ↔
      ∃ id ∈ frameworks, ∃ s, registry.get? id = some s ∧ score content s = t := by
  simp only [examined, List.mem_map, List.mem_filterMap]
  constructor
  · rintro ⟨s, ⟨id, hid, hs⟩, ht⟩
    exact ⟨id, hid, s, hs, ht⟩
  · rintro ⟨id, hid, s, hs, ht⟩
    exact ⟨s, ⟨id, hid, hs⟩, ht⟩

theorem id_of_get? {id : String} {s : Signature} (h : registry.get? id = some s) : s.id = id := by
  rw [Registry.get?] at h
  have hid := List.find?_some h
  exact beq_iff_eq.mp hid

/-- A content has one score for each framework. -/
theorem examined_ext {b c : Score} (hb : b ∈ examined registry frameworks content)
    (hc : c ∈ examined registry others content) (h : b.framework = c.framework) : b = c := by
  obtain ⟨id, -, s, hs, rfl⟩ := mem_examined.mp hb
  obtain ⟨id', -, s', hs', rfl⟩ := mem_examined.mp hc
  have hsame : s.id = s'.id := h
  rw [← id_of_get? hs, hsame, id_of_get? hs', hs'] at hs
  rw [Option.some.inj hs]

theorem exists_of_mem_examined {t : Score} (h : t ∈ examined registry frameworks content) :
    ∃ s ∈ registry, score content s = t := by
  obtain ⟨id, -, s, hs, ht⟩ := mem_examined.mp h
  exact ⟨s, List.mem_of_find?_eq_some hs, ht⟩

theorem examined_ne_nan (h : ∀ s ∈ registry, IsFinite s.importWeight ∧ IsFinite s.routeWeight) :
    ∀ t ∈ examined registry frameworks content, t.score ≠ .nan := by
  intro t ht
  obtain ⟨s, hs, rfl⟩ := exists_of_mem_examined ht
  exact score_ne_nan (h s hs).1 (h s hs).2 content

/-- The verdict depends on the frameworks examined by the best score only. -/
theorem classify_congr (h : best (examined registry frameworks content) =
    best (examined registry others content)) (path : String) :
    classify registry frameworks path content = classify registry others path content := by
  rw [examined, examined] at h
  rw [classify, classify, h]

end Verdicts

/-- The framework chosen is the first of those examined whose score is greatest, if one is
positive; scores are numbers at least where the weights are finite. Another order may
change the verdict to that of another framework with an equal score, and names without
a framework and names given again do not change it. -/
theorem classify_firstBest (registry : Registry) (frameworks : List String) (path : String)
    (content : List Char) :
    ((∀ s ∈ registry, IsFinite s.importWeight ∧ IsFinite s.routeWeight) →
      ∀ t ∈ examined registry frameworks content, t.score ≠ .nan) ∧
    ((∀ t ∈ examined registry frameworks content, t.score ≠ .nan) →
      (∀ b, best (examined registry frameworks content) = some b ↔
        FirstBest (examined registry frameworks content) b) ∧
      (best (examined registry frameworks content) = none ↔
        ∀ t ∈ examined registry frameworks content, lt (zero false) t.score = false) ∧
      ∀ others, frameworks.Perm others →
        classify registry frameworks path content = classify registry others path content ∨
        ∃ b c, best (examined registry frameworks content) = some b ∧
          best (examined registry others content) = some c ∧ b.framework ≠ c.framework ∧
          eq b.score c.score = true) ∧
    classify registry (known registry frameworks) path content =
      classify registry frameworks path content := by
  refine ⟨examined_ne_nan, fun hnan => ⟨fun b => best_eq_some_iff hnan, best_eq_none_iff hnan,
    fun others hperm => ?_⟩, classify_congr (best_known registry frameworks content) path⟩
  have hscores : (examined registry frameworks content).Perm (examined registry others content) :=
    (hperm.filterMap _).map _
  rcases best_perm hnan hscores with hsame | ⟨b, c, hb, hc, hne, heq⟩
  · exact .inl (classify_congr hsame path)
  · refine .inr ⟨b, c, hb, hc, fun hid => hne ?_, heq⟩
    exact examined_ext (mem_of_best hb) (mem_of_best hc) hid

/-- Two frameworks share the member that is called, and the one examined first is chosen. -/
theorem classify_firstBest_shared :
    (∀ s ∈ builtin, IsFinite s.importWeight ∧ IsFinite s.routeWeight) ∧
      ["koa", "gone", "express", "koa"].Perm ["express", "koa", "koa", "gone"] ∧
      ∃ b c,
        FirstBest (examined builtin ["koa", "gone", "express", "koa"]
          "thing.get('/users', list);".toList) b ∧
        FirstBest (examined builtin ["express", "koa", "koa", "gone"]
          "thing.get('/users', list);".toList) c ∧
        b.framework = "koa" ∧ c.framework = "express" ∧ eq b.score c.score = true := by
  have hfinite : ∀ s ∈ builtin, IsFinite s.importWeight ∧ IsFinite s.routeWeight := by
    decide +kernel
  have hperm : ["koa", "gone", "express", "koa"].Perm ["express", "koa", "koa", "gone"] := by
    decide
  obtain ⟨hnan, hfirst, -⟩ := classify_firstBest builtin ["koa", "gone", "express", "koa"] ""
    "thing.get('/users', list);".toList
  obtain ⟨hnan', hfirst', -⟩ := classify_firstBest builtin ["express", "koa", "koa", "gone"] ""
    "thing.get('/users', list);".toList
  have hother : classify builtin ["koa", "gone", "express", "koa"] ""
      "thing.get('/users', list);".toList ≠ classify builtin ["express", "koa", "koa", "gone"] ""
        "thing.get('/users', list);".toList := by
    decide +kernel
  obtain ⟨b, c, hb, hc, -, heq⟩ := ((hfirst (hnan hfinite)).2.2 _ hperm).resolve_left hother
  have hkoa : (best (examined builtin ["koa", "gone", "express", "koa"]
      "thing.get('/users', list);".toList)).map (·.framework) = some "koa" := by
    decide +kernel
  have hexpress : (best (examined builtin ["express", "koa", "koa", "gone"]
      "thing.get('/users', list);".toList)).map (·.framework) = some "express" := by
    decide +kernel
  rw [hb] at hkoa
  rw [hc] at hexpress
  exact ⟨hfinite, hperm, b, c, ((hfirst (hnan hfinite)).1 b).mp hb,
    ((hfirst' (hnan' hfinite)).1 c).mp hc, Option.some.inj hkoa, Option.some.inj hexpress, heq⟩

/-- Two frameworks, the first with weights that are infinite with opposite signs. -/
def clashing : Registry :=
  [{ id := "hapi"
     imports := [.literal "require('hapi')"]
     routes := [.literal "server.route("]
     importWeight := .infinite false
     routeWeight := .infinite true },
   { id := "polka"
     imports := [.literal "require('polka')"]
     routes := [.literal "polka().route("] }]

/-- A content in which both are found. -/
def clashingText : String :=
  "require('hapi'); server.route('/a', list); polka().route('/users', list);"

/-- A score that is no number is not positive, and none is greater: the framework examined
first is chosen for it, and in the other order the one with a positive score. -/
theorem classify_nan_stays :
    (examined clashing ["hapi", "polka"] clashingText.toList).map (·.score) = [.nan, tenths 6] ∧
      lt (zero false) .nan = false ∧ lt (zero false) (tenths 6) = true ∧
      eq .nan (tenths 6) = false ∧
      (classify clashing ["hapi", "polka"] "" clashingText.toList).framework = some "hapi" ∧
      (classify clashing ["polka", "hapi"] "" clashingText.toList).framework = some "polka" := by
  decide +kernel

end RouteDoc.Framework
