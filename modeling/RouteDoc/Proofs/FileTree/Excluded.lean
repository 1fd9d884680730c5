import Mathlib.Data.List.Basic
import RouteDoc.FileTree.Glob

/-!
# Paths that a pattern excludes

A pattern is matched by keeping all that may be left of a text after its first pieces.
What it matches is said here piece by piece, and two stars and a slash at its start are
shown to stand for any directories, or none.

* `Glob.Fits`: the texts that pieces stand for;
* `Glob.accepts_iff`: matching finds exactly these;
* `Remainder`: a path without some of its first directories;
* `excludes_anyDepth`: what a pattern after two stars and a slash excludes.
-/

namespace RouteDoc

namespace Glob

/-- The texts that pieces stand for, one after another: a star for any text, every other
piece for one character. -/
inductive Fits : List Piece → List Char → Prop
  | nil : Fits [] []
  | star {ps : List Piece} {rest : List Char} (front : List Char) :
    Fits ps rest → Fits (.star :: ps) (front ++ rest)
  | single {p : Piece} {ps : List Piece} {c : Char} {cs : List Char} :
    p.fits c = true → Fits ps cs → Fits (p :: ps) (c :: cs)

section Fits

variable {p : Piece} {ps : List Piece} {cs : List Char}

theorem fits_nil_iff : Fits [] cs ↔ cs = [] := by
  constructor
  · rintro ⟨⟩
    rfl
  · rintro rfl
    exact .nil

theorem fits_star_iff : Fits (.star :: ps) cs ↔ ∃ rest, rest <:+ cs ∧ Fits ps rest := by
  constructor
  · intro h
    cases h with
    | star front h => exact ⟨_, List.suffix_append .., h⟩
    | single hc => exact absurd hc Bool.false_ne_true
  · rintro ⟨rest, ⟨front, rfl⟩, h⟩
    exact .star front h

theorem fits_cons_iff (hp : p ≠ .star) :
    Fits (p :: ps) cs ↔ ∃ c rest, cs = c :: rest ∧ p.fits c = true ∧ Fits ps rest := by
  constructor
  · intro h
    cases h with
    | star => exact absurd rfl hp
    | single hc h => exact ⟨_, _, rfl, hc, h⟩
  · rintro ⟨c, rest, rfl, hc, h⟩
    exact .single hc h

theorem fits_literal_iff {d : Char} :
    Fits (.literal d :: ps) cs ↔ ∃ rest, cs = d :: rest ∧ Fits ps rest := by
  have hliteral : Piece.literal d ≠ .star := nofun
  rw [fits_cons_iff hliteral]
  constructor
  · rintro ⟨c, rest, rfl, hc, h⟩
    exact ⟨rest, by rw [beq_iff_eq.mp hc], h⟩
  · rintro ⟨rest, rfl, h⟩
    exact ⟨d, rest, rfl, beq_self_eq_true d, h⟩

end Fits

/-! ## What may be left of a text -/

theorem mem_suffixes {cs left : List Char} : left ∈ suffixes cs ↔ left <:+ cs := by
  induction cs with
  | nil => rw [suffixes, List.mem_singleton, List.suffix_nil]
  | cons c cs ih => rw [suffixes, List.mem_cons, ih, List.suffix_cons_iff]

/-- Whether what is left is kept from the longest to the shortest. -/
def Nested (lefts : List (List Char)) : Prop := lefts.Pairwise fun longer left => left <:+ longer

theorem nested_suffixes (cs : List Char) : Nested (suffixes cs) := by
  induction cs with
  | nil => exact List.pairwise_singleton ..
  | cons c cs ih =>
    refine List.pairwise_cons.mpr ⟨fun left hleft => ?_, ih⟩
    exact (mem_suffixes.mp hleft).trans (List.suffix_cons c cs)

/-- What a piece for one character leaves of a text. -/
def Piece.rest? (p : Piece) : List Char → Option (List Char)
  | [] => none
  | c :: cs => if p.fits c then some cs else none

theorem Piece.rest?_eq_some {p : Piece} {cs rest : List Char} :
    p.rest? cs = some rest ↔ ∃ c, cs = c :: rest ∧ p.fits c = true := by
  cases cs with
  | nil => simp [rest?]
  | cons c cs =>
    by_cases hc : p.fits c = true
    · simp [rest?, hc]
    · simp [rest?, hc]

theorem advance_eq {p : Piece} (hp : p ≠ .star) (lefts : List (List Char)) :
    advance lefts p = lefts.filterMap p.rest? := by
  cases p with
  | star => exact absurd rfl hp
  | set | literal =>
    refine congrArg (List.filterMap · lefts) (funext fun cs => ?_)
    cases cs <;> rfl

theorem nested_advance {lefts : List (List Char)} (h : Nested lefts) (p : Piece) :
    Nested (advance lefts p) := by
  by_cases hp : p = .star
  · subst hp
    cases lefts with
    | nil => exact .nil
    | cons longest lefts => exact nested_suffixes longest
  · rw [advance_eq hp]
    refine h.filterMap _ fun longer left hleft longer' hlonger left' hleft' => ?_
    obtain ⟨c, rfl, -⟩ := Piece.rest?_eq_some.mp hlonger
    obtain ⟨d, rfl, -⟩ := Piece.rest?_eq_some.mp hleft'
    -- The shorter one loses a character as well, so it still is an end of the longer.
    rcases List.suffix_cons_iff.mp hleft with heq | hsuffix
    · exact (List.cons.inj heq).2 ▸ List.suffix_refl left'
    · exact (List.suffix_cons d left').trans hsuffix

/-- One piece: what is left after it can be matched just if what was left before can be
matched with the piece in front. -/
theorem exists_fits_advance {lefts : List (List Char)} (h : Nested lefts) (p : Piece)
    (ps : List Piece) :
    (∃ left ∈ advance lefts p, Fits ps left) ↔ ∃ left ∈ lefts, Fits (p :: ps) left := by
  by_cases hp : p = .star
  · subst hp
    simp only [fits_star_iff]
    cases lefts with
    | nil => simp [advance]
    | cons longest lefts =>
      constructor
      · rintro ⟨rest, hrest, hfits⟩
        exact ⟨longest, List.mem_cons_self, rest, mem_suffixes.mp hrest, hfits⟩
      · rintro ⟨left, hleft, rest, hrest, hfits⟩
        refine ⟨rest, mem_suffixes.mpr (hrest.trans ?_), hfits⟩
        rcases List.mem_cons.mp hleft with rfl | hleft
        · exact List.suffix_refl left
        · exact (List.pairwise_cons.mp h).1 left hleft
  · rw [advance_eq hp]
    simp only [fits_cons_iff hp, List.mem_filterMap, Piece.rest?_eq_some]
    constructor
    · rintro ⟨rest, ⟨left, hleft, c, rfl, hc⟩, hfits⟩
      exact ⟨c :: rest, hleft, c, rest, rfl, hc, hfits⟩
    · rintro ⟨left, hleft, c, rest, rfl, hc, hfits⟩
      exact ⟨rest, ⟨c :: rest, hleft, c, rfl, hc⟩, hfits⟩

theorem any_foldl_advance {lefts : List (List Char)} (h : Nested lefts) (ps : List Piece) :
    (ps.foldl advance lefts).any (·.isEmpty) = true ↔ ∃ left ∈ lefts, Fits ps left := by
  induction ps generalizing lefts with
  | nil => simp only [List.foldl_nil, List.any_eq_true, List.isEmpty_iff, fits_nil_iff]
  | cons p ps ih => rw [List.foldl_cons, ih (nested_advance h p), exists_fits_advance h]

/-- A text is accepted if it is one that the pieces of the pattern stand for. -/
theorem accepts_iff {pattern text : String} :
    accepts pattern text = true ↔ Fits (ofText pattern) text.toList := by
  rw [accepts, any_foldl_advance (List.pairwise_singleton ..)]
  simp only [List.mem_singleton, exists_eq_left]

end Glob

/-! ## Patterns for any directories -/

/-- What a path is below some of its directories: the whole of it, or what follows one of
its slashes. -/
def Remainder (rest path : String) : Prop :=
  rest = path ∨ ∃ directories, path = directories ++ "/" ++ rest

/-- A pattern after two stars and a slash excludes the paths of which the whole, or what
follows one of the slashes, is accepted by the pattern itself. -/
theorem excludes_anyDepth (pattern path : String) :
    excludes ("**/" ++ pattern) path = true ↔
      ∃ rest, Remainder rest path ∧ Glob.accepts pattern rest = true := by
  have hpattern : ("**/" ++ pattern).toList = '*' :: '*' :: '/' :: pattern.toList :=
    String.toList_append
  have hwhole : Glob.accepts ("**/" ++ pattern) path = true ↔
      ∃ directories rest, path = directories ++ "/" ++ rest ∧
        Glob.accepts pattern rest = true := by
    have hpieces : Glob.ofText ("**/" ++ pattern) =
        .star :: .star :: .literal '/' :: Glob.ofText pattern := by
      rw [Glob.ofText, hpattern]
      rfl
    rw [Glob.accepts_iff, hpieces]
    simp only [Glob.fits_star_iff, Glob.fits_literal_iff, Glob.accepts_iff]
    constructor
    · rintro ⟨below, hbelow, _, hslash, rest, rfl, hfits⟩
      obtain ⟨directories, hpath⟩ := hslash.trans hbelow
      refine ⟨String.ofList directories, String.ofList rest, ?_, by rwa [String.toList_ofList]⟩
      rw [← String.toList_inj, ← hpath]
      simp
    · rintro ⟨directories, rest, rfl, hfits⟩
      refine ⟨_, List.suffix_refl _, '/' :: rest.toList, ⟨directories.toList, ?_⟩, _, rfl, hfits⟩
      simp
  have hbelow : Glob.accepts (String.ofList pattern.toList) path = Glob.accepts pattern path := by
    rw [String.ofList_toList]
  rw [excludes, hpattern, Bool.or_eq_true, hwhole]
  refine (or_congr_right (Bool.eq_iff_iff.mp hbelow)).trans ?_
  constructor
  · rintro (⟨directories, rest, hpath, hrest⟩ | hpath)
    · exact ⟨rest, .inr ⟨directories, hpath⟩, hrest⟩
    · exact ⟨path, .inl rfl, hpath⟩
  · rintro ⟨rest, rfl | ⟨directories, hpath⟩, hrest⟩
    · exact .inr hrest
    · exact .inl ⟨directories, rest, hpath, hrest⟩

/-- A bracket that is not closed stands for itself, in any directory. -/
example : excludes "**/[ab" "src/[ab" = true ∧ excludes "**/[ab" "src[ab" = false := by
  decide +kernel

end RouteDoc
