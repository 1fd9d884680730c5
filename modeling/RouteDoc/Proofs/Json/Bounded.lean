import RouteDoc.Proofs.Json.Marks

/-!
# How many marks a text may stand for

Text before a text may change how its beginning is read: after a backslash its first
character is part of an escape, and after the start of a code point its first digits are.

* `Bounded`: how many marks a text stands for, alone and after the start of an escape;
* `Bounded.cons`, `Bounded.escape`, `Bounded.code`: what a character or escape adds;
* `Bounded.bracket`, `Bounded.slashes`: backslashes that have lost their partners.
-/

namespace RouteDoc.Json

/-! ## Reading escapes -/

section Tallies

variable {p : List Char} {q : Nat}

theorem isMark_of_isSome_plainEscape {e : Char} (he : (plainEscape e).isSome) :
    isMark e = false :=
  isMark_eq_false_of (P := fun e => (plainEscape e).isSome) he (by decide) (by decide) (by decide)

theorem markCount_singleton_le (c : Char) : markCount [c] ≤ 1 := List.countP_le_length

theorem not_tallies_slash : ¬ Tallies ['\\'] q := by
  intro h
  cases h with
  | plain hslash => exact hslash rfl

theorem exists_of_tallies_cons {c : Char} (hslash : c ≠ '\\') (h : Tallies (c :: p) q) :
    ∃ r, Tallies p r ∧ q = r + markCount [c] := by
  cases h with
  | plain _ h => exact ⟨_, h, rfl⟩
  | escape | code => exact absurd rfl hslash

/-- Characters other than a backslash stand for themselves. -/
theorem exists_of_tallies_append {cs : List Char} (hcs : '\\' ∉ cs) (h : Tallies (cs ++ p) q) :
    ∃ r, Tallies p r ∧ q = r + markCount cs := by
  induction cs generalizing q with
  | nil => exact ⟨q, h, rfl⟩
  | cons c cs ih =>
    rw [List.mem_cons, not_or] at hcs
    obtain ⟨r, hr, rfl⟩ := exists_of_tallies_cons (Ne.symm hcs.1) h
    obtain ⟨r', hr', rfl⟩ := ih hcs.2 hr
    exact ⟨r', hr', by rw [markCount_cons c cs, Nat.add_assoc]⟩

/-- A backslash before a letter other than `u` makes an escape that stands for no mark. -/
theorem tallies_of_escape {e : Char} (hu : e ≠ 'u') (h : Tallies ('\\' :: e :: p) q) :
    (plainEscape e).isSome ∧ Tallies p q := by
  cases h with
  | plain hslash => exact absurd rfl hslash
  | escape he h => exact ⟨he, h⟩
  | code => exact absurd rfl hu

/-- Four digits after a backslash and a `u` make an escape. -/
theorem exists_of_tallies_code {a b c d : Char}
    (h : Tallies ('\\' :: 'u' :: a :: b :: c :: d :: p) q) :
    ∃ k r, hexQuad [a, b, c, d] = some k ∧ Tallies p r ∧ q = r + markCount [Char.ofNat k] := by
  cases h with
  | plain hslash => exact absurd rfl hslash
  | escape he => cases he
  | code hk h => exact ⟨_, _, hk, h, rfl⟩

theorem markCount_of_hexQuad {a b c d : Char} {k : Nat} (h : hexQuad [a, b, c, d] = some k) :
    markCount [a, b, c, d] = 0 := by
  refine markCount_eq_zero.mpr fun x hx => ?_
  exact isMark_eq_false_of (P := fun x => hexValue x ≠ none) (hexValue_ne_none h hx) (by decide)
    (by decide) (by decide)

/-- The digits of a code point are not interrupted by a backslash. -/
theorem not_tallies_code {ds : List Char} (hds : ds.length ≤ 3) :
    ¬ Tallies ('\\' :: 'u' :: (ds ++ '\\' :: p)) q := by
  generalize hcs : ds ++ '\\' :: p = cs
  intro h
  cases h with
  | plain hslash => exact hslash rfl
  | escape he => cases he
  | @code a b c d rest k _ hk =>
    have htake : [a, b, c, d] = (ds ++ '\\' :: p).take 4 := by rw [hcs]; rfl
    have hmem : '\\' ∈ [a, b, c, d] := by
      rw [htake, List.take_append, List.mem_append]
      obtain ⟨n, hn⟩ : ∃ n, 4 - ds.length = n + 1 := ⟨3 - ds.length, by omega⟩
      rw [hn]
      exact .inr List.mem_cons_self
    exact absurd (by decide) (hexValue_ne_none hk hmem)

end Tallies

/-! ## Bounds -/

/-- A text stands for at most `m` marks, and for at most one more than `n` where it
follows a backslash or the start of a code point. -/
structure Bounded (m n : Nat) (p : List Char) : Prop where
  le : m ≤ n
  plain : ∀ {q}, Tallies p q → q ≤ m
  escaped : ∀ {q}, Tallies ('\\' :: p) q → q ≤ n + 1
  coded : ∀ {ds q}, ds.length ≤ 3 → Tallies ('\\' :: 'u' :: (ds ++ p)) q → q ≤ n + 1

theorem bounded_nil : Bounded 0 0 [] where
  le := Nat.le_refl _
  plain h := by
    cases h with
    | nil => exact Nat.le_refl _
  escaped h := absurd h not_tallies_slash
  coded {ds q} hds h := by
    rw [List.append_nil] at h
    cases h with
    | plain hslash => exact absurd rfl hslash
    | escape he => cases he
    | code =>
      simp only [List.length_cons] at hds
      omega

namespace Bounded

variable {m n : Nat} {p : List Char}

theorem mono (h : Bounded m n p) {m' n' : Nat} (hm : m ≤ m') (hn : n ≤ n') (hle : m' ≤ n') :
    Bounded m' n' p where
  le := hle
  plain ht := (h.plain ht).trans hm
  escaped ht := (h.escaped ht).trans (Nat.add_le_add_right hn 1)
  coded hds ht := (h.coded hds ht).trans (Nat.add_le_add_right hn 1)

theorem cons (h : Bounded m n p) {c : Char} (hslash : c ≠ '\\') :
    Bounded (m + markCount [c]) (n + markCount [c]) (c :: p) where
  le := Nat.add_le_add_right h.le _
  plain ht := by
    obtain ⟨r, hr, rfl⟩ := exists_of_tallies_cons hslash ht
    exact Nat.add_le_add_right (h.plain hr) _
  escaped {q} ht := by
    by_cases hu : c = 'u'
    · subst hu
      exact @coded m n p h [] q (Nat.zero_le 3) ht
    · have hq := h.plain (tallies_of_escape hu ht).2
      have hle := h.le
      omega
  coded {ds q} hds ht := by
    by_cases hthree : ds.length = 3
    · -- The character is the last digit of the code point.
      obtain ⟨x, y, z, rfl⟩ := List.length_eq_three.mp hthree
      obtain ⟨k, r, -, hr, rfl⟩ := exists_of_tallies_code ht
      have hq := h.plain hr
      have hone := markCount_singleton_le (Char.ofNat k)
      have hle := h.le
      omega
    · have hmore : ds ++ c :: p = (ds ++ [c]) ++ p := by simp
      rw [hmore] at ht
      have hq := h.coded (by rw [List.length_append, List.length_singleton]; omega) ht
      omega

/-- Characters that are neither marks nor backslashes change no bound. -/
theorem append (h : Bounded m n p) {cs : List Char}
    (hcs : ∀ c ∈ cs, c ≠ '\\' ∧ isMark c = false) : Bounded m n (cs ++ p) := by
  induction cs with
  | nil => exact h
  | cons c cs ih =>
    obtain ⟨hc, hcs⟩ := List.forall_mem_cons.mp hcs
    have hcons := (ih hcs).cons hc.1
    rwa [markCount_singleton_of_not hc.2] at hcons

theorem escape (h : Bounded m n p) {e : Char} (he : (plainEscape e).isSome) :
    Bounded m n ('\\' :: e :: p) where
  le := h.le
  plain ht := by
    have hu : e ≠ 'u' := by
      rintro rfl
      cases he
    exact h.plain (tallies_of_escape hu ht).2
  escaped {q} ht := by
    obtain ⟨-, ht⟩ := tallies_of_escape (by decide) ht
    by_cases hslash : e = '\\'
    · subst hslash
      exact h.escaped ht
    · obtain ⟨r, hr, rfl⟩ := exists_of_tallies_cons hslash ht
      have hq := h.plain hr
      have hone := markCount_singleton_le e
      have hle := h.le
      omega
  coded hds ht := absurd ht (not_tallies_code hds)

theorem code (h : Bounded m n p) {a b c d : Char} {k : Nat} (hk : hexQuad [a, b, c, d] = some k)
    (hmark : isMark (Char.ofNat k) = false) :
    Bounded m n ('\\' :: 'u' :: a :: b :: c :: d :: p) where
  le := h.le
  plain ht := by
    obtain ⟨k', r, hk', hr, rfl⟩ := exists_of_tallies_code ht
    obtain rfl := Option.some.inj (hk.symm.trans hk')
    rw [markCount_singleton_of_not hmark]
    exact h.plain hr
  escaped {q} ht := by
    -- The backslash takes the other one, and the digits stand for themselves.
    have hslash : '\\' ∉ ['u', a, b, c, d] := not_mem_code hk (by decide) (by decide)
    obtain ⟨r, hr, rfl⟩ :=
      exists_of_tallies_append hslash (tallies_of_escape (by decide) ht).2
    have hq := h.plain hr
    have hle := h.le
    rw [markCount_cons_of_not rfl, markCount_of_hexQuad hk]
    omega
  coded hds ht := absurd ht (not_tallies_code hds)

/-- A backslash before a bracket makes no escape. -/
theorem bracket (h : Bounded m n p) : Bounded n (n + 1) ('\\' :: '[' :: p) where
  le := Nat.le_succ n
  plain ht := absurd (tallies_of_escape (by decide) ht).1 (by decide)
  escaped ht := by
    obtain ⟨-, ht⟩ := tallies_of_escape (by decide) ht
    obtain ⟨r, hr, rfl⟩ := exists_of_tallies_cons (by decide) ht
    have hq := h.plain hr
    have hle := h.le
    have hone := markCount_singleton_le '['
    omega
  coded hds ht := absurd ht (not_tallies_code hds)

theorem le_of_slashes (h : Bounded m n p) {q : Nat} :
    ∀ k, Tallies (List.replicate k '\\' ++ p) q → q ≤ n + 1
  | 0, ht => (h.plain ht).trans (h.le.trans (Nat.le_succ n))
  | 1, ht => h.escaped ht
  | k + 2, ht => h.le_of_slashes k (tallies_of_escape (by decide) ht).2

/-- Of some backslashes all but the last make escapes of their own. -/
theorem slashes (h : Bounded m n p) (k : Nat) :
    Bounded (n + 1) (n + 1) (List.replicate k '\\' ++ p) where
  le := Nat.le_refl _
  plain ht := h.le_of_slashes k ht
  escaped ht := (h.le_of_slashes (k + 1) ht).trans (Nat.le_succ _)
  coded hds ht := by
    cases k with
    | zero => exact (h.coded hds ht).trans (Nat.le_succ _)
    | succ k => exact absurd ht (not_tallies_code hds)

end Bounded

end RouteDoc.Json
