import RouteDoc.Proofs.Framework.Scored
import RouteDoc.Proofs.Route.Sited

/-!
# Files read for routes

A file is read for routes if it shows a sign of a framework or enough hints. The
calls that declare routes are such signs if they are written plainly, but not
those for all verbs.

* `hasRoutes_iff`: which contents are read for routes;
* `writtenPlainly`: calls of a member as the signs of frameworks show them;
* `hasRoutes_of_route`: contents that are read for the routes in them.
-/

namespace RouteDoc.Framework

open Number Number.Binary64
open Source (Node)
open Text (Pattern)

/-! ## Signs and hints -/

/-- A content shows a sign of a framework known from the start. -/
def Signed (content : List Char) : Prop :=
  ∃ s ∈ builtin, ∃ p ∈ s.imports ++ s.routes, p.occursIn content = true

/-- A content that is no test and no configuration is read for routes if it shows
a sign of a framework or more than two hints. -/
theorem hasRoutes_iff {content : List Char} (htest : looksLikeTest content = false)
    (hconfig : looksLikeConfig content = false) (path : String) :
    (classify builtin builtin.ids path content).hasRoutes = true ↔
      Signed content ∨ 2 < occurrences apiHints content := by
  have hexamined : examined builtin builtin.ids content = builtin.map (score content) := rfl
  rw [hasRoutes_classify htest hconfig, hexamined]
  refine or_congr_left' fun _ => ⟨?_, ?_⟩
  · rintro ⟨b, hbest, hclear⟩
    by_contra hunsigned
    obtain ⟨s, hs, rfl⟩ := List.mem_map.mp (mem_of_best hbest)
    obtain ⟨hnone, hlow⟩ := score_of_unsigned content s fun p hp =>
      Bool.eq_false_iff.mpr fun hoccurs => hunsigned ⟨s, hs, p, hp, hoccurs⟩
    rw [hnone, hlow] at hclear
    simp at hclear
  · rintro ⟨s, hs, hsign⟩
    have hnan : ∀ t ∈ builtin.map (score content), t.score ≠ .nan := fun t ht => by
      obtain ⟨s, hs, rfl⟩ := List.mem_map.mp ht
      exact ((weighty_builtin s hs).le_score content).1.ne_nan
    have hscore : score content s ∈ builtin.map (score content) := List.mem_map_of_mem hs
    have hclear : lt (tenths 5) (score content s).score = true := by
      have hweighty : lt (tenths 5) weighty = true := by decide +kernel
      refine lt_of_lt_of_not_lt (hnan _ hscore) hweighty ?_
      exact (lt_eq_false_iff (hnan _ hscore) (by decide)).mpr
        (((weighty_builtin s hs).le_score content).2 hsign)
    have hpos : lt (zero false) (tenths 5) = true := by decide +kernel
    obtain ⟨b, hbest, hfirst⟩ := exists_best hnan hscore (lt_of_lt_of_lt hpos hclear)
    exact ⟨b, hbest, .inr (lt_of_lt_of_not_lt (hnan b hfirst.mem) hclear (hfirst.not_lt hscore))⟩

/-! ## Calls of members -/

/-- Whether a call of a member is written as the signs of frameworks show it: a
point directly before the name of the member, and white space only between that
and the bracket. -/
def writtenPlainly (content : List Char) (call : Node) : Bool :=
  ((call.child? .function).bind (·.child? .property)).any fun property =>
    0 < property.span.start && content[property.span.start - 1]? == some '.' &&
      ((content.drop property.span.stop).dropWhile Text.isSpace).head? == some '('

/-- A member with white space and a bracket after it is a call of it. -/
theorem matches_memberCall (member : String) {rest : List Char}
    (h : (rest.dropWhile Text.isSpace).head? = some '(') :
    (memberCall member).Matches ('.' :: (member.toList ++ rest))
      (rest.dropWhile Text.isSpace).tail := by
  have hbracket : (Pattern.literal "(").Matches (rest.dropWhile Text.isSpace)
      (rest.dropWhile Text.isSpace).tail := by
    obtain ⟨c, cs, he⟩ := List.exists_cons_of_ne_nil (l := rest.dropWhile Text.isSpace)
      (fun hnil => by rw [hnil] at h; cases h)
    rw [he] at h ⊢
    cases h
    exact Pattern.matches_literal "(" cs
  exact (((Pattern.matches_literal "." _).seq (Pattern.matches_literal member rest)).seq
    (Pattern.matches_run false Text.isSpace rest)).seq hbracket

/-- A call that is written plainly shows. -/
theorem occursIn_memberCall {content : List Char} {call callee property : Node}
    (hcall : writtenPlainly content call = true) (hcallee : call.child? .function = some callee)
    (hproperty : callee.child? .property = some property)
    (hname : property.text content ≠ []) :
    (memberCall (String.ofList (property.text content))).occursIn content = true := by
  obtain ⟨⟨hstart, hpoint⟩, hbracket⟩ : (0 < property.span.start ∧
      content[property.span.start - 1]? = some '.') ∧
      ((content.drop property.span.stop).dropWhile Text.isSpace).head? = some '(' := by
    simpa [writtenPlainly, hcallee, hproperty] using hcall
  have hle : property.span.start ≤ property.span.stop := by
    by_contra hlt
    refine hname ?_
    rw [Node.text, Nat.sub_eq_zero_of_le (Nat.le_of_not_le hlt), List.take_zero]
  have htext : content.drop property.span.start =
      property.text content ++ content.drop property.span.stop := by
    rw [Node.text, ← Nat.add_sub_of_le hle, ← List.drop_drop, Nat.add_sub_cancel_left,
      List.take_append_drop]
  have hsplit : content.take (property.span.start - 1) ++
      '.' :: (property.text content ++ content.drop property.span.stop) = content := by
    obtain ⟨hlt, hget⟩ := List.getElem?_eq_some_iff.mp hpoint
    have hdrop := List.drop_eq_getElem_cons hlt
    rw [hget, Nat.sub_add_cancel hstart, htext] at hdrop
    rw [← hdrop, List.take_append_drop]
  have hmatch := matches_memberCall (String.ofList (property.text content)) hbracket
  rw [String.toList_ofList] at hmatch
  have hoccurs := hmatch.occursIn (content.take (property.span.start - 1))
  rwa [hsplit] at hoccurs

/-! ## Routes -/

/-- A call that declares a route is a call of a member named like its verb. -/
theorem exists_of_routeOfCall {content : List Char} {file : String} {site : Site} {r : Route}
    (h : routeOfCall content file site = some r) :
    ∃ callee property, site.call.child? .function = some callee ∧
      callee.child? .property = some property ∧
      verbOfMember (String.ofList (property.text content)) = some r.method :=
  (declares_of_routeOfCall h).method

/-- The members that declare routes show, but for two. -/
theorem mem_of_verbOfMember {member method : String} (h : verbOfMember member = some method)
    (hhead : method ≠ "HEAD") (hoptions : method ≠ "OPTIONS") :
    member ∈ verbMembers ++ ["all", "use"] := by
  unfold verbOfMember at h
  split at h
  case h_6 => exact absurd (Option.some.inj h).symm hhead
  case h_7 => exact absurd (Option.some.inj h).symm hoptions
  case h_9 => cases h
  all_goals decide

/-- A content that is no test and no configuration is read for routes just if it
shows a sign of a framework known from the start or more than two hints. So it
is if a call in it declares a route and is written plainly, unless that is a
route for `HEAD` or `OPTIONS`. -/
theorem hasRoutes_of_route (content : List Char) (htest : looksLikeTest content = false)
    (hconfig : looksLikeConfig content = false) (path : String) :
    ((classify builtin builtin.ids path content).hasRoutes = true ↔
      Signed content ∨ 2 < occurrences apiHints content) ∧
    ∀ (file : String) (root : Node), ∀ site ∈ sites root, ∀ r,
      routeOfCall content file site = some r → writtenPlainly content site.call = true →
      r.method ≠ "HEAD" → r.method ≠ "OPTIONS" →
      r ∈ extractRoutes content file root ∧
        (classify builtin builtin.ids path content).hasRoutes = true := by
  refine ⟨hasRoutes_iff htest hconfig path,
    fun file root site hsite r hroute hplain hhead hoptions => ?_⟩
  refine ⟨List.mem_filterMap.mpr ⟨site, hsite, hroute⟩,
    (hasRoutes_iff htest hconfig path).mpr (.inl ?_)⟩
  obtain ⟨callee, property, hcallee, hproperty, hverb⟩ := exists_of_routeOfCall hroute
  have hmember := mem_of_verbOfMember hverb hhead hoptions
  have hname : property.text content ≠ [] := by
    intro hnil
    rw [hnil] at hmember
    revert hmember
    decide
  exact ⟨_, List.mem_cons_self, _, List.mem_append_right _
    (List.mem_append_left _ (List.mem_map_of_mem hmember)),
    occursIn_memberCall hplain hcallee hproperty hname⟩

/-- A call that declares a route is read from its text and shows. -/
theorem hasRoutes_of_route_users :
    ∃ root r, Source.parseAs .javascript "app.get('/users', list);".toList = some root ∧
      r ∈ extractRoutes "app.get('/users', list);".toList "" root ∧ r.method = "GET" ∧
      (classify builtin builtin.ids "" "app.get('/users', list);".toList).hasRoutes = true := by
  have hcalls : (Source.parseAs .javascript "app.get('/users', list);".toList).any (fun root =>
      (sites root).any fun site =>
        (routeOfCall "app.get('/users', list);".toList "" site).any (·.method == "GET") &&
          writtenPlainly "app.get('/users', list);".toList site.call) = true := by
    decide +kernel
  obtain ⟨root, hroot, hcalls⟩ := (Option.any_eq_true _ _).mp hcalls
  obtain ⟨site, hsite, hcall⟩ := List.any_eq_true.mp hcalls
  obtain ⟨hcall, hplain⟩ := (Bool.and_eq_true _ _).mp hcall
  obtain ⟨r, hr, hget⟩ := (Option.any_eq_true _ _).mp hcall
  have hget : r.method = "GET" := beq_iff_eq.mp hget
  obtain ⟨hmem, hroutes⟩ := (hasRoutes_of_route "app.get('/users', list);".toList
    (by decide +kernel) (by decide +kernel) "").2 "" root site hsite r hr hplain
    (by rw [hget]; decide) (by rw [hget]; decide)
  exact ⟨root, r, hroot, hmem, hget, hroutes⟩

/-- A route for `HEAD` is found by those who read the text, and does not show. -/
theorem head_unseen :
    looksLikeTest "app.head('/health', health);".toList = false ∧
      looksLikeConfig "app.head('/health', health);".toList = false ∧
      (extractFrom "app.head('/health', health);".toList "" (some ".js")).routes.map
        (fun r => (r.method, r.path)) = [("HEAD", "/health")] ∧
      (classify builtin builtin.ids "" "app.head('/health', health);".toList).hasRoutes = false := by
  decide +kernel

end RouteDoc.Framework
