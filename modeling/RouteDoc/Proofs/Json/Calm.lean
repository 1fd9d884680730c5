import RouteDoc.Proofs.Json.Marks

/-!
# Calm texts

The text of a value has its marks as they are, and writes none of them as an escape. So it
may be cut before a mark that is no part of an escape.

* `Calm`: texts of characters and escapes, of which no escape stands for a mark;
* `calm_of_append`: where a calm text may be cut;
* `calm_stringText`: texts in quotation marks are calm.
-/

namespace RouteDoc.Json

open Text (isAlphanum_iff)

/-! ## Ink -/

/-- The characters that a printer puts out as they are. -/
def isInk (c : Char) : Bool := 0x20 ≤ c.toNat || c == '\n'

theorem isInk_of_isPlain {c : Char} (h : isPlain c = true) : isInk c = true := by
  simp only [isPlain, Bool.or_eq_true, beq_iff_eq] at h
  rcases h with ((h | rfl) | rfl) | rfl
  · have halphanum := isAlphanum_iff.mp h
    rw [isInk, Bool.or_eq_true, decide_eq_true_eq]
    omega
  all_goals rfl

theorem isInk_of_hexValue {c : Char} (h : hexValue c ≠ none) : isInk c = true := by
  have hletter : ∀ {low high : Char}, 0x20 ≤ low.toNat → (low ≤ c && c ≤ high) = true →
      isInk c = true := fun hlow hc => by
    have hle : _ ≤ c.toNat := UInt32.le_iff_toNat_le.mp
      (of_decide_eq_true ((Bool.and_eq_true _ _).mp hc).1)
    rw [isInk, Bool.or_eq_true, decide_eq_true_eq]
    exact .inl (hlow.trans hle)
  unfold hexValue at h
  split at h
  · rename_i hc
    exact isInk_of_isPlain (isPlain_of_isDigit hc)
  · split at h
    · rename_i hc
      exact hletter (by decide) hc
    · split at h
      · rename_i hc
        exact hletter (by decide) hc
      · exact absurd rfl h

theorem isInk_of_plainEscape {e : Char} (he : (plainEscape e).isSome) : isInk e = true := by
  unfold plainEscape at he
  split at he
  any_goals rfl
  cases he

/-! ## Calm texts -/

/-- A text of characters and escapes, none of which stands for a mark. -/
inductive Calm : List Char → Prop
  | nil : Calm []
  | plain {c : Char} {cs : List Char} (hslash : c ≠ '\\') (hink : isInk c = true) (h : Calm cs) :
      Calm (c :: cs)
  | escape {e : Char} {cs : List Char} (he : (plainEscape e).isSome) (h : Calm cs) :
      Calm ('\\' :: e :: cs)
  | code {a b c d : Char} {cs : List Char} {k : Nat} (hk : hexQuad [a, b, c, d] = some k)
      (hmark : isMark (Char.ofNat k) = false) (h : Calm cs) :
      Calm ('\\' :: 'u' :: a :: b :: c :: d :: cs)

theorem Calm.append {cs ds : List Char} (h : Calm cs) (hds : Calm ds) : Calm (cs ++ ds) := by
  induction h with
  | nil => exact hds
  | plain hslash hink _ ih => exact .plain hslash hink ih
  | escape he _ ih => exact .escape he ih
  | code hk hmark _ ih => exact .code hk hmark ih

theorem Calm.isInk {cs : List Char} (h : Calm cs) : ∀ c ∈ cs, isInk c = true := by
  have hslash : Json.isInk '\\' = true := rfl
  induction h with
  | nil => exact nofun
  | plain _ hink _ ih => exact List.forall_mem_cons.mpr ⟨hink, ih⟩
  | @escape e cs he _ ih =>
    exact List.forall_mem_cons.mpr
      ⟨hslash, List.forall_mem_cons.mpr ⟨isInk_of_plainEscape he, ih⟩⟩
  | @code a b c d cs k hk _ _ ih =>
    have hdigits : ∀ x ∈ [a, b, c, d], Json.isInk x = true := fun x hx =>
      isInk_of_hexValue (hexValue_ne_none hk hx)
    intro x hx
    have hsplit : x ∈ ['\\', 'u'] ++ ([a, b, c, d] ++ cs) := hx
    rw [List.mem_append, List.mem_append] at hsplit
    rcases hsplit with hstart | hdigit | hrest
    · exact List.all_eq_true.mp (rfl : ['\\', 'u'].all Json.isInk = true) x hstart
    · exact hdigits x hdigit
    · exact ih x hrest

/-- Where a stretch ends before `d` or does not have it after its start, so does a text
that is cut before `d`. -/
theorem eq_nil_or_of_append {front rest stretch cs : List Char} {d : Char}
    (h : front ++ d :: rest = stretch ++ cs)
    (hd : ∀ more, stretch = front ++ d :: more → front = []) :
    front = [] ∨ ∃ more, front = stretch ++ more ∧ cs = more ++ d :: rest := by
  rcases List.append_eq_append_iff.mp h with ⟨more, hstretch, hrest⟩ | ⟨more, hfront, hcs⟩
  · cases more with
    | nil => exact .inr ⟨[], by simpa using hstretch.symm, hrest.symm⟩
    | cons x more =>
      obtain ⟨rfl, -⟩ := List.cons.inj hrest
      exact .inl (hd more hstretch)
  · exact .inr ⟨more, hfront, hcs⟩

/-- A calm text may be cut before a character that is no part of a code point, and that
no backslash there makes an escape. -/
theorem calm_of_append {front rest : List Char} {d : Char} (h : Calm (front ++ d :: rest))
    (hdigit : hexValue d = none) (hu : d ≠ 'u')
    (hfront : plainEscape d = none ∨ front.getLast? ≠ some '\\') :
    Calm front ∧ Calm (d :: rest) := by
  have hlast : ∀ {stretch more : List Char},
      (plainEscape d = none ∨ (stretch ++ more).getLast? ≠ some '\\') →
        plainEscape d = none ∨ more.getLast? ≠ some '\\' := fun h => h.imp_right fun hne he =>
    hne (by rw [List.getLast?_append, he, Option.some_or])
  generalize heq : front ++ d :: rest = t at h
  induction h generalizing front with
  | nil => simp at heq
  | @plain c cs hslash hink h ih =>
    have hcut : ∀ more, [c] = front ++ d :: more → front = [] := fun more hmore => by
      cases front with
      | nil => rfl
      | cons x front => simp at hmore
    rcases eq_nil_or_of_append (show _ = [c] ++ cs from heq) hcut with rfl | ⟨more, rfl, rfl⟩
    · exact ⟨.nil, (show d :: rest = _ from heq) ▸ .plain hslash hink h⟩
    · obtain ⟨hcalm, hrest⟩ := ih (hlast hfront) rfl
      exact ⟨.plain hslash hink hcalm, hrest⟩
  | @escape e cs he h ih =>
    have hcut : ∀ more, ['\\', e] = front ++ d :: more → front = [] := fun more hmore => by
      rcases front with _ | ⟨x, _ | ⟨y, front⟩⟩
      · rfl
      · simp only [List.cons_append, List.nil_append, List.cons.injEq] at hmore
        obtain ⟨rfl, rfl, -⟩ := hmore
        rcases hfront with hnone | hne
        · rw [hnone] at he
          cases he
        · exact absurd rfl hne
      · simp at hmore
    rcases eq_nil_or_of_append (show _ = ['\\', e] ++ cs from heq) hcut with rfl | ⟨more, rfl, rfl⟩
    · exact ⟨.nil, (show d :: rest = _ from heq) ▸ .escape he h⟩
    · obtain ⟨hcalm, hrest⟩ := ih (hlast hfront) rfl
      exact ⟨.escape he hcalm, hrest⟩
  | @code a b c e cs k hk hmark h ih =>
    have hcut : ∀ more, ['\\', 'u', a, b, c, e] = front ++ d :: more → front = [] :=
        fun more hmore => by
      cases front with
      | nil => rfl
      | cons x front =>
        have hmem : d ∈ ['u', a, b, c, e] := (List.cons.inj hmore).2 ▸ List.mem_append_right _
          List.mem_cons_self
        exact absurd hmem (not_mem_code hk hdigit hu)
    rcases eq_nil_or_of_append (show _ = ['\\', 'u', a, b, c, e] ++ cs from heq) hcut
      with rfl | ⟨more, rfl, rfl⟩
    · exact ⟨.nil, (show d :: rest = _ from heq) ▸ .code hk hmark h⟩
    · obtain ⟨hcalm, hrest⟩ := ih (hlast hfront) rfl
      exact ⟨.code hk hmark hcalm, hrest⟩

/-! ## Texts in quotation marks -/

/-- A text without backslashes is calm if it is all ink. -/
theorem calm_self {cs : List Char} (h : ∀ c ∈ cs, c ≠ '\\' ∧ isInk c = true) : Calm cs := by
  induction cs with
  | nil => exact .nil
  | cons c cs ih =>
    obtain ⟨hc, hcs⟩ := List.forall_mem_cons.mp h
    exact .plain hc.1 hc.2 (ih hcs)

theorem ne_slash_of_isPlain {c : Char} (h : isPlain c = true) : c ≠ '\\' := by
  rintro rfl
  cases h

theorem calm_of_isPlain {cs : List Char} (h : ∀ c ∈ cs, isPlain c = true) : Calm cs :=
  calm_self fun c hc => ⟨ne_slash_of_isPlain (h c hc), isInk_of_isPlain (h c hc)⟩

theorem calm_unitEscape {n : Nat} (h : n < 0x10000) (hmark : isMark (Char.ofNat n) = false) :
    Calm (unitEscape n) :=
  .code (hexQuad_unitDigits h []) hmark .nil

theorem calm_writeChar (c : Char) : Calm (writeChar true c) := by
  unfold writeChar
  split
  any_goals exact .escape rfl .nil
  rename_i hslash _ _ _ _ _
  dsimp only
  split
  · rename_i hunit
    simp only [Bool.true_and, Bool.or_eq_true, Bool.and_eq_true, decide_eq_true_eq] at hunit
    exact calm_unitEscape (by omega) (isMark_ofNat (by omega))
  · rename_i hunit
    simp only [Bool.true_and, Bool.or_eq_true, Bool.and_eq_true, decide_eq_true_eq] at hunit
    split
    · rename_i hpair
      simp only [Bool.true_and, decide_eq_true_eq] at hpair
      have hvalid : c.toNat < 0xD800 ∨ 0xDFFF < c.toNat ∧ c.toNat < 0x110000 := c.valid
      exact (calm_unitEscape (by omega) (isMark_ofNat (by omega))).append
        (calm_unitEscape (by omega) (isMark_ofNat (by omega)))
    · refine .plain hslash ?_ .nil
      rw [isInk, Bool.or_eq_true, decide_eq_true_eq]
      omega

theorem calm_flatMap {α : Type} {f : α → List Char} {xs : List α} (h : ∀ x ∈ xs, Calm (f x)) :
    Calm (xs.flatMap f) := by
  induction xs with
  | nil => exact .nil
  | cons x xs ih =>
    obtain ⟨hx, hxs⟩ := List.forall_mem_cons.mp h
    rw [List.flatMap_cons]
    exact hx.append (ih hxs)

theorem calm_stringText (s : String) : Calm (stringText s) := by
  rw [stringText_eq]
  exact .plain (by decide) rfl ((calm_flatMap fun c _ => calm_writeChar c).append
    (.plain (by decide) rfl .nil))

end RouteDoc.Json
