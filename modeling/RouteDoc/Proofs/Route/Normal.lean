import RouteDoc.Proofs.Route.Tokens
import RouteDoc.Proofs.Text.Trimmed

/-!
# Paths in normal form

A path is trimmed and rooted, its names are written in braces, runs of slashes become
single ones, and a slash at the end is left out. No step undoes what an earlier one does,
but the last one may bring white space to the end, which the first one would leave out.

* `Canonical`, `normalizePath_canonical`: the shape of normal forms, and what they keep;
* `normalizeList_eq_self_iff`: the paths that are in normal form and stay so;
* `normalizePath_normalizePath`: when the normal form of a path stays as it is.
-/

namespace RouteDoc

open Text (Ends ends_cons isSpace trimList trimStart trimEnd dropEndWhile)

/-! ## Steps to the normal form -/

/-- A path with a slash in front. -/
def rooted (cs : List Char) : List Char := if cs.head? == some '/' then cs else '/' :: cs

/-- A path with its parameters in braces. -/
def braced (cs : List Char) : List Char := braceNames ':' none 0 (braceNames '<' (some '>') 0 cs)

/-- A path without a slash at the end, unless it is that slash. -/
def bare (cs : List Char) : List Char :=
  if cs != ['/'] && cs.getLast? == some '/' then cs.dropLast else cs

theorem normalizeList_eq (cs : List Char) :
    normalizeList cs = bare (singleSlashes (braced (rooted (trimList cs)))) := rfl

/-! ## Slashes -/

section Slashes

theorem not_infix_singleSlashes (cs : List Char) : ¬ ['/', '/'] <:+: singleSlashes cs := by
  fun_induction singleSlashes cs with
  | case1 cs ih => exact ih
  | case2 c cs hnext ih =>
    rw [List.infix_cons_iff]
    rintro (hhere | hlater)
    · obtain ⟨rfl, more, hmore⟩ := List.cons_prefix_cons.mp hhere
      have hhead : cs.head? = some '/' := by
        rw [← head?_singleSlashes, ← hmore]
        rfl
      obtain ⟨rest, rfl⟩ := List.head?_eq_some_iff.mp hhead
      exact hnext rest rfl rfl
    · exact ih hlater
  | case3 => simp

theorem singleSlashes_eq_self {cs : List Char} (h : ¬ ['/', '/'] <:+: cs) :
    singleSlashes cs = cs := by
  fun_induction singleSlashes cs with
  | case1 cs ih => exact absurd (List.prefix_append ['/', '/'] cs).isInfix h
  | case2 c cs hnext ih => rw [ih fun hwithin => h (List.infix_cons hwithin)]
  | case3 => rfl

theorem getLast?_singleSlashes (cs : List Char) : (singleSlashes cs).getLast? = cs.getLast? := by
  fun_induction singleSlashes cs with
  | case1 cs ih => rw [ih]; rfl
  | case2 c cs hnext ih => rw [List.getLast?_cons, List.getLast?_cons, ih]
  | case3 => rfl

/-- What follows another character is taken on its own. -/
theorem singleSlashes_append {c : Char} (hc : c ≠ '/') (cs rest : List Char) :
    singleSlashes (cs ++ c :: rest) = singleSlashes cs ++ c :: singleSlashes rest := by
  fun_induction singleSlashes cs with
  | case1 cs ih => exact ih
  | case2 d cs hnext ih =>
    rw [List.cons_append, singleSlashes, ih, List.cons_append]
    intro more hd hmore
    cases cs with
    | nil => exact hc (List.cons.inj hmore).1
    | cons e cs => exact hnext cs hd (by rw [(List.cons.inj hmore).1])
  | case3 => exact singleSlashes_keep hc rest

theorem singleSlashes_slashes (n : Nat) :
    singleSlashes (List.replicate (n + 1) '/') = ['/'] := by
  induction n with
  | zero => rfl
  | succ n ih => exact ih

end Slashes

/-! ## The shape of the normal form -/

/-- A path in normal form: it starts with a slash, has no two slashes in a row, no slash
at the end unless it is that slash, and no name in another style than in braces. -/
structure Canonical (cs : List Char) : Prop where
  root : cs.head? = some '/'
  runs : ¬ ['/', '/'] <:+: cs
  last : cs.getLast? = some '/' → cs = ['/']
  names : ∀ s ≠ Style.braces, ∀ name, IsParameterName name → ¬ s.token name <:+: cs

theorem head?_rooted (cs : List Char) : (rooted cs).head? = some '/' := by
  rw [rooted]
  split
  · rename_i h
    exact beq_iff_eq.mp h
  · rfl

theorem rooted_append {c : Char} (hc : c ≠ '/') (cs rest : List Char) :
    rooted (cs ++ c :: rest) = rooted cs ++ c :: rest := by
  cases cs with
  | nil => simp [rooted, hc]
  | cons d cs => by_cases hd : d = '/' <;> simp [rooted, hd]

theorem braced_cons_slash (cs : List Char) : braced ('/' :: cs) = '/' :: braced cs := by
  rw [braced, braceNames_keep (by decide), braceNames_keep (by decide), ← braced]

theorem head?_braced_rooted (cs : List Char) : (braced (rooted cs)).head? = some '/' := by
  obtain ⟨more, hmore⟩ := List.head?_eq_some_iff.mp (head?_rooted cs)
  rw [hmore, braced_cons_slash]
  rfl

theorem namedIn_braced {s : Style} (hs : s ≠ .braces) (cs : List Char) :
    namedIn [s] (braced cs) = [] := by
  have hcolon := namedIn_braceNames_of_ne (s := .colon) hs (braceNames '<' (some '>') 0 cs)
  have hangles := namedIn_braceNames_of_ne (s := .angles) hs cs
  cases s with
  | colon => exact hcolon
  | braces => exact absurd rfl hs
  | angles => exact hcolon.trans hangles

theorem bare_append_slash {cs : List Char} (h : cs ≠ []) : bare (cs ++ ['/']) = cs := by
  rw [bare, if_pos, List.dropLast_concat]
  simp [h]

theorem bare_eq_self {cs : List Char} (h : cs.getLast? = some '/' → cs = ['/']) : bare cs = cs := by
  by_cases hlast : cs.getLast? = some '/'
  · simp [bare, h hlast]
  · simp [bare, hlast]

/-- Leaving out the slash at the end keeps the rest of the shape. -/
theorem canonical_bare {cs : List Char} (hrooted : cs.head? = some '/')
    (hsingle : ¬ ['/', '/'] <:+: cs) (hbraced : ∀ s ≠ Style.braces, namedIn [s] cs = []) :
    Canonical (bare cs) := by
  have hnone : ∀ {cs : List Char}, (∀ s ≠ Style.braces, namedIn [s] cs = []) →
      ∀ s ≠ Style.braces, ∀ name, IsParameterName name → ¬ s.token name <:+: cs :=
    fun h s hs _ hname hwithin => namedIn_eq_nil_iff.mp (h s hs) _ hname hwithin
  by_cases hslash : cs.getLast? = some '/'
  · obtain ⟨front, rfl⟩ := List.getLast?_eq_some_iff.mp hslash
    by_cases hfront : front = []
    · subst hfront
      exact ⟨rfl, hsingle, fun _ => rfl, hnone hbraced⟩
    · rw [bare_append_slash hfront]
      refine ⟨?_, fun h => hsingle (h.trans (List.infix_append' [] front ['/'])), fun hlast => ?_,
        hnone fun s hs => ?_⟩
      · rwa [List.head?_append_of_ne_nil _ hfront] at hrooted
      · -- Another slash before it would make two in a row.
        obtain ⟨more, rfl⟩ := List.getLast?_eq_some_iff.mp hlast
        rw [List.append_assoc] at hsingle
        exact absurd (List.suffix_append more ['/', '/']).isInfix hsingle
      · rw [← namedIn_append_idle (t := ['/']) (List.forall_mem_singleton.mpr (by decide)),
          hbraced s hs]
  · rw [bare_eq_self fun h => absurd h hslash]
    exact ⟨hrooted, hsingle, fun h => absurd h hslash, hnone hbraced⟩

theorem canonical_normalizeList (cs : List Char) : Canonical (normalizeList cs) := by
  rw [normalizeList_eq]
  refine canonical_bare ?_ (not_infix_singleSlashes _) fun s hs => ?_
  · rw [head?_singleSlashes, head?_braced_rooted]
  · rw [namedIn_singleSlashes, namedIn_braced hs]

/-! ## Paths that are in normal form -/

theorem rooted_eq_self {cs : List Char} (h : cs.head? = some '/') : rooted cs = cs := by
  simp [rooted, h]

theorem bare_prefix (cs : List Char) : bare cs <+: cs := by
  rw [bare]
  split
  · exact List.dropLast_prefix cs
  · exact List.prefix_rfl

theorem braced_eq_self {cs : List Char} (h : ∀ s ≠ Style.braces, namedIn [s] cs = []) :
    braced cs = cs := by
  have hangles : braceNames '<' (some '>') 0 cs = cs :=
    braceNames_eq_self (s := .angles) cs (h .angles (by decide))
  rw [braced, hangles]
  exact braceNames_eq_self (s := .colon) cs (h .colon (by decide))

/-- To a path in normal form nothing is done but that white space at the end is left out,
and then a slash. -/
theorem Canonical.normalizeList_eq {cs : List Char} (h : Canonical cs) :
    normalizeList cs = bare (trimEnd cs) := by
  obtain ⟨more, rfl⟩ := List.head?_eq_some_iff.mp h.root
  have htrim : trimList ('/' :: more) = '/' :: trimEnd more := by
    rw [trimList, trimStart, List.dropWhile_cons_of_neg (by decide)]
    exact Text.dropEndWhile_append_of_not (by decide) [] more
  have hend : trimEnd ('/' :: more) = '/' :: trimEnd more :=
    Text.dropEndWhile_append_of_not (by decide) [] more
  have hpart : '/' :: trimEnd more <:+: '/' :: more :=
    (List.cons_prefix_cons.mpr ⟨rfl, Text.dropEndWhile_prefix isSpace more⟩).isInfix
  rw [RouteDoc.normalizeList_eq, htrim, hend, rooted_eq_self rfl, braced_eq_self fun s hs => ?_,
    singleSlashes_eq_self fun hwithin => h.runs (hwithin.trans hpart)]
  exact namedIn_eq_nil_iff.mpr fun name hname hwithin =>
    h.names s hs name hname (hwithin.trans hpart)

/-- A path stays as it is just if it has the shape of the normal form and no white space
at the end. -/
theorem normalizeList_eq_self_iff {cs : List Char} :
    normalizeList cs = cs ↔ Canonical cs ∧ ∀ c ∈ cs.getLast?, isSpace c = false := by
  constructor
  · intro h
    have hcanonical : Canonical cs := h ▸ canonical_normalizeList cs
    have hshort : cs <+: trimEnd cs := by
      have hbare := bare_prefix (trimEnd cs)
      rwa [← hcanonical.normalizeList_eq, h] at hbare
    have hends : trimEnd cs = cs :=
      (Text.dropEndWhile_prefix isSpace cs).eq_of_length_le hshort.length_le
    exact ⟨hcanonical, Text.dropEndWhile_eq_self.mp hends⟩
  · rintro ⟨hcanonical, hlast⟩
    rw [hcanonical.normalizeList_eq, trimEnd, Text.dropEndWhile_eq_self.mpr hlast,
      bare_eq_self hcanonical.last]

/-! ## Names in other styles -/

section Tokens

variable {s : Style} {name rest : List Char}

theorem braced_append {c : Char} (hc : isNameChar c = false) (hangle : c ≠ '>')
    (cs rest : List Char) : braced (cs ++ c :: rest) = braced cs ++ braced (c :: rest) := by
  have hends : Ends isNameChar (c :: rest) := ends_cons.mpr hc
  have hangles : braceNames '<' (some '>') 0 (cs ++ c :: rest) =
      braceNames '<' (some '>') 0 cs ++ braceNames '<' (some '>') 0 (c :: rest) :=
    braceNames_append (s := .angles) hends (by simpa [Style.closing] using hangle.symm) cs
  rw [braced, hangles]
  exact braceNames_append (s := .colon) (ends_braceNames .angles hends)
    (fun d _ => (Option.some_ne_none d).symm) _

/-- A name in any style is rewritten to the same name in braces. -/
theorem braced_token (hname : IsParameterName name) (hrest : Ends isNameChar rest) (s : Style) :
    braced (s.token name ++ rest) = Style.braces.token name ++ braced rest := by
  have hends : Ends isNameChar (braceNames '<' (some '>') 0 rest) := ends_braceNames .angles hrest
  have hbraces : braceNames ':' none 0 (Style.braces.token name ++ braceNames '<' (some '>') 0 rest) =
      Style.braces.token name ++ braced rest :=
    braceNames_token_of_ne (t := .colon) (by decide) hname hends
  cases s with
  | colon =>
    have hangles : braceNames '<' (some '>') 0 (Style.colon.token name ++ rest) =
        Style.colon.token name ++ braceNames '<' (some '>') 0 rest :=
      braceNames_token_of_ne (t := .angles) (by decide) hname hrest
    rw [braced, hangles]
    exact braceNames_token (s := .colon) hname hends
  | braces =>
    have hangles : braceNames '<' (some '>') 0 (Style.braces.token name ++ rest) =
        Style.braces.token name ++ braceNames '<' (some '>') 0 rest :=
      braceNames_token_of_ne (t := .angles) (by decide) hname hrest
    rw [braced, hangles, hbraces]
  | angles =>
    have hangles : braceNames '<' (some '>') 0 (Style.angles.token name ++ rest) =
        Style.braces.token name ++ braceNames '<' (some '>') 0 rest :=
      braceNames_token (s := .angles) hname hrest
    rw [braced, hangles, hbraces]

/-- In normal form it makes no difference in which style a name was written. -/
theorem normalizeList_token (hname : IsParameterName name) (hrest : Ends isNameChar rest)
    (front : List Char) (s : Style) :
    normalizeList (front ++ (s.token name ++ rest)) =
      bare (singleSlashes (braced (rooted (trimStart front)) ++
        (Style.braces.token name ++ braced (trimEnd rest)))) := by
  have htrim : trimList (front ++ (s.token name ++ rest)) =
      trimStart front ++ (s.token name ++ trimEnd rest) := by
    have hopening : isSpace s.opening = false := by cases s <;> decide
    obtain ⟨init, d, hinit⟩ : ∃ init d, s.token name = init ++ [d] :=
      (List.eq_nil_or_concat' (s.token name)).resolve_left nofun
    have hd : isSpace d = false := isSpace_of_mem_token (s := s) hname d (by simp [hinit])
    rw [trimList, trimStart, token_append, Text.dropWhile_append_of_not hopening, ← token_append,
      hinit, trimEnd, List.append_assoc, ← List.append_assoc, List.singleton_append,
      Text.dropEndWhile_append_of_not hd]
    simp [trimStart, trimEnd]
  have hends : Ends isNameChar (trimEnd rest) := by
    obtain ⟨back, hback, -⟩ := Text.exists_dropEndWhile isSpace rest
    intro c hc
    refine hrest c ?_
    rw [hback, List.head?_append]
    simp only [trimEnd] at hc
    simp [Option.mem_def.mp hc]
  have hopening : s.opening ≠ '/' ∧ s.opening ≠ '>' := by cases s <;> decide
  rw [normalizeList_eq, htrim, token_append, rooted_append hopening.1,
    braced_append (isNameChar_opening s) hopening.2, ← token_append, braced_token hname hends]

end Tokens

/-- The normal form of a path has its shape and names the parameters of the path, in any
style, in the same order; and in place of a name after a colon the path may give the same
name in any other style. -/
theorem normalizePath_canonical (path : String) :
    Canonical (normalizePath path).toList ∧
      namedIn [.braces] (normalizePath path).toList =
        namedIn [.angles, .colon, .braces] path.toList ∧
      ∀ front name rest, path.toList = front ++ (Style.colon.token name ++ rest) → IsParameterName name →
        Ends isNameChar rest → ∀ s : Style,
          normalizePath (String.ofList (front ++ (s.token name ++ rest))) = normalizePath path := by
  simp only [normalizePath, String.toList_ofList]
  refine ⟨canonical_normalizeList _, namedIn_normalizeList _, ?_⟩
  intro front name rest hpath hname hrest s
  rw [hpath, normalizeList_token hname hrest, normalizeList_token hname hrest]

theorem normalizePath_canonical_angles :
    "users/:id//<tab>/".toList =
        "users/".toList ++ (Style.colon.token "id".toList ++ "//<tab>/".toList) ∧
      IsParameterName "id".toList ∧ Ends isNameChar "//<tab>/".toList ∧
      normalizePath (String.ofList ("users/".toList ++
        (Style.angles.token "id".toList ++ "//<tab>/".toList))) =
          normalizePath "users/:id//<tab>/" := by
  have hpath : "users/:id//<tab>/".toList =
      "users/".toList ++ (Style.colon.token "id".toList ++ "//<tab>/".toList) := by
    decide
  have hname : IsParameterName "id".toList := ⟨isWord_of_all (by decide), by decide⟩
  have hends : Ends isNameChar "//<tab>/".toList := ends_cons.mpr (by decide)
  exact ⟨hpath, hname, hends,
    (normalizePath_canonical "users/:id//<tab>/").2.2 _ _ _ hpath hname hends .angles⟩

/-! ## Normal forms of normal forms -/

section Twice

variable {s : Style} {c : Char} {cs : List Char}

theorem getLast?_braced (cs : List Char) :
    ∀ d ∈ (braced cs).getLast?, d = '}' ∨ cs.getLast? = some d := fun d hd =>
  (getLast?_braceNames .colon _ d hd).elim .inl fun hangles =>
    getLast?_braceNames .angles cs d hangles

theorem braced_slashes (n : Nat) : braced (List.replicate n '/') = List.replicate n '/' := by
  refine braced_eq_self fun s _ => ?_
  have hnone : namedIn [s] (List.replicate n '/' ++ []) = [] :=
    namedIn_append_of_not_opensName (fun d hd => by rw [List.eq_of_mem_replicate hd]; decide) []
  rwa [List.append_nil] at hnone

theorem braced_append_slashes (cs : List Char) (n : Nat) :
    braced (cs ++ List.replicate n '/') = braced cs ++ List.replicate n '/' := by
  cases n with
  | zero => simp
  | succ n =>
    have hslashes := braced_slashes (n + 1)
    rw [List.replicate_succ] at hslashes ⊢
    rw [braced_append (by decide) (by decide), hslashes]

theorem getLast?_rooted_concat (hc : c ≠ '/') (front : List Char) :
    (rooted (front ++ [c])).getLast? = some c := by
  rw [rooted_append hc, List.getLast?_concat]

/-- Without its slashes at the end a trimmed path has the same normal form. -/
theorem normalizeList_of_trimmed {front : List Char} {n : Nat} (hc : c ≠ '/')
    (htrim : trimList cs = front ++ c :: List.replicate n '/') :
    normalizeList cs = singleSlashes (braced (rooted (front ++ [c]))) := by
  have hrooted : rooted (front ++ c :: List.replicate n '/') =
      rooted (front ++ [c]) ++ List.replicate n '/' := by
    rw [rooted_append hc, rooted_append hc, List.append_assoc]
    rfl
  rw [normalizeList_eq, htrim, hrooted, braced_append_slashes]
  -- The last character is no slash after the rewriting either.
  obtain ⟨init, d, hinit⟩ : ∃ init d, braced (rooted (front ++ [c])) = init ++ [d] := by
    refine (List.eq_nil_or_concat' _).resolve_left fun hnil => ?_
    have hhead := head?_braced_rooted (front ++ [c])
    rw [hnil] at hhead
    cases hhead
  have hd : d ≠ '/' := by
    have hor := getLast?_braced (rooted (front ++ [c])) d (by simp [hinit])
    rw [getLast?_rooted_concat hc, Option.some.injEq] at hor
    rcases hor with rfl | rfl
    · decide
    · exact hc
  rw [hinit, List.append_assoc, List.singleton_append, singleSlashes_append hd,
    singleSlashes_append hd]
  cases n with
  | zero => exact bare_eq_self (by simp [singleSlashes, hd])
  | succ n =>
    rw [singleSlashes_slashes, ← List.singleton_append (l := ['/']), ← List.append_assoc,
      bare_append_slash (by simp)]
    rfl

theorem normalizeList_of_slashes {n : Nat} (htrim : trimList cs = List.replicate n '/') :
    normalizeList cs = ['/'] := by
  obtain ⟨m, hm⟩ : ∃ m, rooted (List.replicate n '/') = List.replicate (m + 1) '/' := by
    cases n with
    | zero => exact ⟨0, rfl⟩
    | succ n => exact ⟨n, rfl⟩
  rw [normalizeList_eq, htrim, hm, braced_slashes, singleSlashes_slashes]
  rfl

/-- The normal form of a path has white space at its end just if the path has, once it is
trimmed and its slashes at the end are left out. -/
theorem endsBlank_normalizeList (cs : List Char) :
    (∀ c ∈ (normalizeList cs).getLast?, isSpace c = false) ↔
      ∀ c ∈ (dropEndWhile (· == '/') (trimList cs)).getLast?, isSpace c = false := by
  obtain ⟨back, hback, hslashes⟩ := Text.exists_dropEndWhile (· == '/') (trimList cs)
  obtain ⟨n, rfl⟩ : ∃ n, back = List.replicate n '/' :=
    ⟨back.length, List.eq_replicate_of_mem fun c hc => beq_iff_eq.mp (hslashes c hc)⟩
  rcases List.eq_nil_or_concat' (dropEndWhile (· == '/') (trimList cs)) with hnil | ⟨front, c, hfront⟩
  · rw [hnil] at hback ⊢
    rw [normalizeList_of_slashes hback]
    exact iff_of_true (by simp; decide) nofun
  · have hlast : (dropEndWhile (· == '/') (trimList cs)).getLast? = some c := by
      rw [hfront, List.getLast?_concat]
    have hslash : (c == '/') = false :=
      Text.getLast?_dropEndWhile (p := fun d => d == '/') hlast
    have hc : c ≠ '/' := beq_eq_false_iff_ne.mp hslash
    rw [hfront, List.append_assoc] at hback
    rw [normalizeList_of_trimmed hc hback, getLast?_singleSlashes, hfront, List.getLast?_concat]
    by_cases hspace : isSpace c = true
    · -- White space belongs to no name, so it is still the last character.
      obtain ⟨hname, hopens, -, hangle⟩ := not_of_isSpace hspace
      have hone : braced [c] = [c] :=
        braced_eq_self fun s _ => namedIn_cons_of_not_opensName hopens []
      rw [rooted_append hc, braced_append hname hangle, hone, List.getLast?_concat]
    · have hspace : isSpace c = false := Bool.eq_false_iff.mpr hspace
      refine iff_of_true (fun d hd => ?_) (by simpa using hspace)
      rcases getLast?_braced _ d hd with rfl | hd
      · decide
      · rw [getLast?_rooted_concat hc, Option.some.injEq] at hd
        exact hd ▸ hspace

end Twice

/-- The normal form of a normal form is what is left of it once white space at its end,
and then a slash, is left out. It is the same again exactly for the paths that do not end
in white space once they are trimmed and their slashes at the end are left out. -/
theorem normalizePath_normalizePath (path : String) :
    (normalizePath (normalizePath path)).toList = bare (trimEnd (normalizePath path).toList) ∧
      (normalizePath (normalizePath path) = normalizePath path ↔
        ∀ c ∈ (dropEndWhile (· == '/') (trimList path.toList)).getLast?, isSpace c = false) := by
  have hcanonical := canonical_normalizeList path.toList
  rw [← String.toList_inj]
  simp only [normalizePath, String.toList_ofList]
  refine ⟨hcanonical.normalizeList_eq, ?_⟩
  rw [normalizeList_eq_self_iff, endsBlank_normalizeList, and_iff_right hcanonical]

/-- A slash at the end keeps white space before it until the path is brought into normal
form once more. -/
theorem normalizePath_twice :
    ¬ ∀ path, normalizePath (normalizePath path) = normalizePath path := fun h =>
  absurd (h "/a /") (by decide)

end RouteDoc
