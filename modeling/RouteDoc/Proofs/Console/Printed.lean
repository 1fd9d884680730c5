import RouteDoc.Console.Markup
import RouteDoc.Proofs.Json.Bounded
import RouteDoc.Proofs.Json.Calm

/-!
# What printing does to a text

Printing a calm text takes away tags, the backslash before a bracket and names of emoji.
What is left stands for fewer marks than the text had, however its escapes now read: a
backslash that lost its partner may make an escape of what follows, but that takes a tag,
which had two marks.

* `Printed`: what becomes of a calm text, and whether anything was taken away;
* `Printed.lt_markCount`: where something was taken away marks are missing.
-/

namespace RouteDoc.Console

open Json (Bounded Tallies bounded_nil hexQuad isInk isMark isMark_of_isSome_plainEscape markCount
  markCount_append markCount_cons markCount_cons_of_not markCount_eq_zero markCount_of_hexQuad
  plainEscape)

/-! ## Texts and what is left of them -/

/-- What becomes of a calm text. It stays as it is up to a bracket that loses a backslash,
a name of an emoji, or a tag with the backslashes before it; the flag tells whether there
is one of these. -/
inductive Printed : Bool → List Char → List Char → Prop
  | nil : Printed false [] []
  | plain {changed : Bool} {c : Char} {t p : List Char} (hslash : c ≠ '\\')
      (h : Printed changed t p) : Printed changed (c :: t) (c :: p)
  | escape {changed : Bool} {e : Char} {t p : List Char} (he : (plainEscape e).isSome)
      (h : Printed changed t p) : Printed changed ('\\' :: e :: t) ('\\' :: e :: p)
  | code {changed : Bool} {a b c d : Char} {t p : List Char} {k : Nat}
      (hk : hexQuad [a, b, c, d] = some k) (hmark : isMark (Char.ofNat k) = false)
      (h : Printed changed t p) : Printed changed ('\\' :: 'u' :: a :: b :: c :: d :: t)
        ('\\' :: 'u' :: a :: b :: c :: d :: p)
  | bracket {changed : Bool} {t p : List Char} (h : Printed changed t p) :
      Printed true ('\\' :: '\\' :: '[' :: t) ('\\' :: '[' :: p)
  | emoji {changed : Bool} {name symbols t p : List Char}
      (hsymbols : ∀ c ∈ symbols, isSymbol c = true) (h : Printed changed t p) :
      Printed true (':' :: (name ++ ':' :: t)) (symbols ++ p)
  | tag {changed : Bool} {k : Nat} {inside t p : List Char} (h : Printed changed t p) :
      Printed true (List.replicate (2 * k) '\\' ++ '[' :: (inside ++ ']' :: t))
        (List.replicate k '\\' ++ p)

/-- Emoji are made of ink, but of neither marks nor backslashes. -/
theorem isSymbol_spec {c : Char} (h : isSymbol c = true) :
    isInk c = true ∧ c ≠ '\\' ∧ isMark c = false := by
  simp only [isSymbol, Bool.or_eq_true, beq_iff_eq, decide_eq_true_eq] at h
  rcases h with ((h | rfl) | rfl) | h
  · have hplain := Json.isPlain_of_isDigit h
    exact ⟨Json.isInk_of_isPlain hplain, Json.ne_slash_of_isPlain hplain,
      Json.isMark_of_isPlain hplain⟩
  · decide
  · decide
  · refine ⟨?_, ?_, Json.isMark_eq_false (by omega)⟩
    · rw [isInk, Bool.or_eq_true, decide_eq_true_eq]
      omega
    · rintro rfl
      revert h
      decide

theorem Printed.append {a b : Bool} {t p u q : List Char} (h : Printed a t p)
    (hu : Printed b u q) : Printed (a || b) (t ++ u) (p ++ q) := by
  induction h with
  | nil => exact hu
  | plain hslash _ ih => exact .plain hslash ih
  | escape he _ ih => exact .escape he ih
  | code hk hmark _ ih => exact .code hk hmark ih
  | bracket _ ih => exact .bracket ih
  | emoji hsymbols _ ih =>
    simp only [List.cons_append, List.append_assoc]
    exact .emoji hsymbols ih
  | tag _ ih =>
    simp only [List.cons_append, List.append_assoc]
    exact .tag ih

/-- Without changes a text stays as it is. -/
theorem Printed.eq {changed : Bool} {t p : List Char} (h : Printed changed t p)
    (hchanged : changed = false) : p = t := by
  induction h with
  | nil => rfl
  | plain _ _ ih | escape _ _ ih | code _ _ _ ih => rw [ih hchanged]
  | bracket | emoji | tag => cases hchanged

/-- What is left comes from the text, or from an emoji. -/
theorem Printed.mem_or {changed : Bool} {t p : List Char} (h : Printed changed t p) :
    ∀ c ∈ p, c ∈ t ∨ isSymbol c = true := by
  induction h with
  | nil => exact nofun
  | plain _ _ ih | escape _ _ ih | code _ _ _ ih | bracket _ ih =>
    intro c hc
    have hrest := ih c
    simp only [List.mem_cons] at hc ⊢
    tauto
  | emoji hsymbols _ ih =>
    intro c hc
    rcases List.mem_append.mp hc with hc | hc
    · exact .inr (hsymbols c hc)
    · exact (ih c hc).imp_left fun hc => by simp [hc]
  | tag _ ih =>
    intro c hc
    rcases List.mem_append.mp hc with hc | hc
    · refine .inl (List.mem_append_left _ (List.mem_replicate.mpr ?_))
      obtain ⟨hk, rfl⟩ := List.mem_replicate.mp hc
      exact ⟨by omega, rfl⟩
    · exact (ih c hc).imp_left fun hc => by simp [hc]

/-- What is left of a text of ink is ink. -/
theorem Printed.isInk {changed : Bool} {t p : List Char} (h : Printed changed t p)
    (ht : ∀ c ∈ t, isInk c = true) : ∀ c ∈ p, isInk c = true := fun c hc =>
  (h.mem_or c hc).elim (ht c) fun hsymbol => (isSymbol_spec hsymbol).1

/-! ## Marks -/

/-- What is left of a text stands for no more marks than the text has, and for fewer if
something was taken away. -/
theorem Printed.exists_bounded {changed : Bool} {t p : List Char} (h : Printed changed t p) :
    ∃ m, Bounded m (markCount t) p ∧ (changed = true → m < markCount t) := by
  induction h with
  | nil => exact ⟨0, bounded_nil, nofun⟩
  | @plain changed c t p hslash _ ih =>
    obtain ⟨m, hm, hlt⟩ := ih
    rw [markCount_cons]
    exact ⟨_, hm.cons hslash, fun hc => Nat.add_lt_add_right (hlt hc) _⟩
  | @escape changed e t p he _ ih =>
    obtain ⟨m, hm, hlt⟩ := ih
    rw [markCount_cons_of_not rfl, markCount_cons_of_not (isMark_of_isSome_plainEscape he)]
    exact ⟨m, hm.escape he, hlt⟩
  | @code changed a b c d t p k hk hmark _ ih =>
    obtain ⟨m, hm, hlt⟩ := ih
    have hcount : markCount ('\\' :: 'u' :: a :: b :: c :: d :: t) = markCount t := by
      have hsplit : '\\' :: 'u' :: a :: b :: c :: d :: t = ['\\', 'u'] ++ ([a, b, c, d] ++ t) := rfl
      rw [hsplit, markCount_append, markCount_append, markCount_of_hexQuad hk, Nat.zero_add]
      exact Nat.zero_add _
    rw [hcount]
    exact ⟨m, hm.code hk hmark, hlt⟩
  | @bracket changed t p _ ih =>
    obtain ⟨m, hm, -⟩ := ih
    rw [markCount_cons_of_not rfl, markCount_cons_of_not rfl, markCount_cons]
    exact ⟨_, hm.bracket, fun _ => Nat.lt_succ_self _⟩
  | @emoji changed name symbols t p hsymbols _ ih =>
    obtain ⟨m, hm, -⟩ := ih
    have hle := hm.le
    have hcount : markCount (':' :: (name ++ ':' :: t)) = markCount t + markCount name + 2 := by
      have hcolon : markCount [':'] = 1 := rfl
      rw [markCount_cons, markCount_append, markCount_cons ':' t]
      omega
    rw [hcount]
    have hbounded := hm.append fun c hc => (isSymbol_spec (hsymbols c hc)).2
    exact ⟨m, hbounded.mono (Nat.le_refl _) (by omega) (by omega), fun _ => by omega⟩
  | @tag changed k inside t p _ ih =>
    obtain ⟨m, hm, -⟩ := ih
    have hcount : markCount (List.replicate (2 * k) '\\' ++ '[' :: (inside ++ ']' :: t)) =
        markCount t + markCount inside + 2 := by
      have hopen : markCount ['['] = 1 := rfl
      have hclose : markCount [']'] = 1 := rfl
      have hslashes : markCount (List.replicate (2 * k) '\\') = 0 :=
        markCount_eq_zero.mpr fun c hc => List.eq_of_mem_replicate hc ▸ rfl
      rw [markCount_append, hslashes, markCount_cons, markCount_append, markCount_cons ']' t]
      omega
    rw [hcount]
    exact ⟨_, (hm.slashes k).mono (Nat.le_refl _) (by omega) (by omega), fun _ => by omega⟩

/-- Where something was taken away marks are missing. -/
theorem Printed.lt_markCount {t p : List Char} (h : Printed true t p) {q : Nat}
    (hq : Tallies p q) : q < markCount t := by
  obtain ⟨m, hm, hlt⟩ := h.exists_bounded
  exact (hm.plain hq).trans_lt (hlt rfl)

end RouteDoc.Console
