import RouteDoc.Proofs.Framework.Chosen

/-!
# Frameworks whose routes are found

A content in which routes of a framework are found is read for routes unless another
framework is chosen for it, of which no route is found and which is not clear.

* `Positive`: frameworks for which every sign counts;
* `hasRoutes_of_matched`: when a content with routes of such a framework is not read;
* `matched_unread`: a content with a route that is not read.
-/

namespace RouteDoc.Framework

open Number (Binary64)
open Number.Binary64

/-- A framework whose weights are positive numbers of the format. -/
structure Positive (s : Signature) : Prop where
  import_pos : lt (zero false) s.importWeight = true
  route_pos : lt (zero false) s.routeWeight = true
  route_inFormat : InFormat s.routeWeight

instance (s : Signature) : Decidable (Positive s) :=
  decidable_of_iff (lt (zero false) s.importWeight = true ∧
      lt (zero false) s.routeWeight = true ∧ InFormat s.routeWeight)
    ⟨fun ⟨himport, hroute, hformat⟩ => ⟨himport, hroute, hformat⟩,
      fun ⟨himport, hroute, hformat⟩ => ⟨himport, hroute, hformat⟩⟩

namespace Positive

variable {s : Signature} (hs : Positive s)

include hs

theorem nonneg_importWeight : Nonneg s.importWeight :=
  ((lt_iff nonneg_zero.ne_nan (ne_nan_of_lt hs.import_pos).2).mp hs.import_pos).le

theorem zero_lt_routeWeight : value (zero false) < value s.routeWeight :=
  (lt_iff nonneg_zero.ne_nan (ne_nan_of_lt hs.route_pos).2).mp hs.route_pos

/-- A score is not negative, and at least the weight of a route where one is found. -/
theorem le_score (content : List Char) :
    Nonneg (score content s).score ∧
      ((∃ p ∈ s.routes, p.occursIn content = true) →
        value s.routeWeight ≤ value (score content s).score) := by
  have hroute : ∀ n ∈ [1, 2, 3], value s.routeWeight ≤ value (s.routeWeight * .ofInt (n : Nat)) :=
    fun n hn => le_mul_ofInt hn hs.route_inFormat hs.zero_lt_routeWeight
  obtain ⟨hnonneg, hle⟩ := le_score_of_sign hs.route_inFormat hs.nonneg_importWeight
    (fun n hn => hs.zero_lt_routeWeight.le.trans (hroute n hn)) content
  exact ⟨hnonneg, fun hmatched => hle (.inr ⟨hmatched, hroute⟩)⟩

end Positive

/-- If routes of a framework are found in a content that is no test and no configuration,
a framework is chosen that fits at least as well. The content is left out just if no
route of the framework chosen is found, its score is not clear and there are few hints;
and that is not so if a route of the first framework alone is clear. -/
theorem hasRoutes_of_matched (registry : Registry) (hweights : ∀ s ∈ registry, Positive s)
    (frameworks : List String) (path : String) (content : List Char)
    (htest : looksLikeTest content = false) (hconfig : looksLikeConfig content = false)
    (s : Signature) (hs : s ∈ frameworks.filterMap registry.get?)
    (hmatched : ∃ p ∈ s.routes, p.occursIn content = true) :
    ∃ b, FirstBest (examined registry frameworks content) b ∧
      lt b.score (score content s).score = false ∧
      ((classify registry frameworks path content).hasRoutes = false ↔
        b.occurrences = 0 ∧ lt (tenths 5) b.score = false ∧ occurrences apiHints content ≤ 2) ∧
      (lt (tenths 5) s.routeWeight = true →
        (classify registry frameworks path content).hasRoutes = true) := by
  have hnan : ∀ t ∈ examined registry frameworks content, t.score ≠ .nan := fun t ht => by
    obtain ⟨u, hu, rfl⟩ := exists_of_mem_examined ht
    exact ((hweights u hu).le_score content).1.ne_nan
  have hexamined : score content s ∈ examined registry frameworks content :=
    List.mem_map_of_mem hs
  have hpositive : Positive s := by
    obtain ⟨id, -, hid⟩ := List.mem_filterMap.mp hs
    exact hweights s (List.mem_of_find?_eq_some hid)
  have hle : lt (score content s).score s.routeWeight = false :=
    (lt_eq_false_iff (hnan _ hexamined) (ne_nan_of_lt hpositive.route_pos).2).mpr
      ((hpositive.le_score content).2 hmatched)
  -- The score of the framework is positive, so one is chosen.
  have hpos : lt (zero false) (score content s).score = true :=
    lt_of_lt_of_not_lt (hnan _ hexamined) hpositive.route_pos hle
  obtain ⟨b, hb, hfirst⟩ := exists_best hnan hexamined hpos
  have hnot := hfirst.not_lt hexamined
  have hread := hasRoutes_classify htest hconfig registry frameworks path
  rw [hb] at hread
  refine ⟨b, hfirst, hnot, ?_, fun hclear => hread.mpr (.inl ⟨b, rfl, .inr ?_⟩)⟩
  · rw [← Bool.not_eq_true, hread]
    simp only [Option.some.injEq, exists_eq_left', not_or, Nat.pos_iff_ne_zero, not_not, not_lt,
      Bool.not_eq_true, and_assoc]
  · exact lt_of_lt_of_not_lt (hnan b hfirst.mem)
      (lt_of_lt_of_not_lt (hnan _ hexamined) hclear hle) hnot

/-- Two frameworks, the first with a weight for being loaded and the second with a weight
for its routes. -/
def rivals (importWeight routeWeight : Binary64) : Registry :=
  [{ id := "hapi"
     imports := [.literal "require('hapi')"]
     routes := [.literal "server.route("]
     importWeight },
   { id := "polka"
     imports := [.literal "require('polka')"]
     routes := [.literal "polka().route("]
     routeWeight }]

/-- Another framework is chosen than the one whose route is found, and the content is read
because that route is clear. -/
theorem hasRoutes_of_matched_rivals :
    (∀ s ∈ rivals (tenths 9) (tenths 6), Positive s) ∧
      looksLikeTest "require('hapi'); polka().route('/users', list);".toList = false ∧
      looksLikeConfig "require('hapi'); polka().route('/users', list);".toList = false ∧
      (classify (rivals (tenths 9) (tenths 6)) ["polka", "gone", "hapi"] ""
        "require('hapi'); polka().route('/users', list);".toList).framework = some "hapi" ∧
      ∃ s ∈ ["polka", "gone", "hapi"].filterMap (rivals (tenths 9) (tenths 6)).get?,
        (∃ p ∈ s.routes, p.occursIn "require('hapi'); polka().route('/users', list);".toList = true) ∧
        lt (tenths 5) s.routeWeight = true ∧
        (classify (rivals (tenths 9) (tenths 6)) ["polka", "gone", "hapi"] ""
          "require('hapi'); polka().route('/users', list);".toList).hasRoutes = true := by
  have hweights : ∀ s ∈ rivals (tenths 9) (tenths 6), Positive s := by decide +kernel
  have htest : looksLikeTest "require('hapi'); polka().route('/users', list);".toList = false := by
    decide +kernel
  have hconfig :
      looksLikeConfig "require('hapi'); polka().route('/users', list);".toList = false := by
    decide +kernel
  have hmatched : ∃ s ∈ ["polka", "gone", "hapi"].filterMap (rivals (tenths 9) (tenths 6)).get?,
      (∃ p ∈ s.routes, p.occursIn "require('hapi'); polka().route('/users', list);".toList = true) ∧
      lt (tenths 5) s.routeWeight = true := by
    decide +kernel
  refine ⟨hweights, htest, hconfig, by decide +kernel, ?_⟩
  obtain ⟨s, hs, hroute, hclear⟩ := hmatched
  obtain ⟨b, -, -, -, hread⟩ := hasRoutes_of_matched _ hweights _ "" _ htest hconfig s hs hroute
  exact ⟨s, hs, hroute, hclear, hread hclear⟩

/-- The weight of a framework that is only loaded is greater than that of a route that is
found, and neither is clear. -/
theorem matched_unread :
    (∀ s ∈ rivals (tenths 4) (tenths 3), Positive s) ∧
      looksLikeTest "require('hapi'); polka().route('/users', list);".toList = false ∧
      looksLikeConfig "require('hapi'); polka().route('/users', list);".toList = false ∧
      (∃ s ∈ ["hapi", "polka"].filterMap (rivals (tenths 4) (tenths 3)).get?, ∃ p ∈ s.routes,
        p.occursIn "require('hapi'); polka().route('/users', list);".toList = true) ∧
      (classify (rivals (tenths 4) (tenths 3)) ["hapi", "polka"] ""
        "require('hapi'); polka().route('/users', list);".toList).hasRoutes = false := by
  decide +kernel

end RouteDoc.Framework
