import RouteDoc.Json.Reader

/-!
# How strings are spelled

A string stands between quotes as its characters or escapes of them. What a
code point escape stands for may hang on what follows it.

* `Spells`: the characters that a text between quotes stands for;
* `readChars_spelled`, `exists_spelled`: strings are read as they are spelled;
* `Literal`: the texts that stand for some characters, put together piece by
  piece.
-/

namespace RouteDoc.Json

/-- A text between quotes stands for some characters. -/
inductive Spells : List Char → List Char → Prop
  | nil : Spells [] []
  | plain {c : Char} {cs s : List Char} (hquote : c ≠ '"') (hslash : c ≠ '\\')
      (hcontrol : 0x20 ≤ c.toNat) (h : Spells cs s) : Spells (c :: cs) (c :: s)
  | escape {e d : Char} {cs s : List Char} (he : plainEscape e = some d) (h : Spells cs s) :
      Spells ('\\' :: e :: cs) (d :: s)
  | code {d : Char} {digits cs s : List Char}
      (hd : codePoint (digits ++ cs) = some (d, digits.length)) (h : Spells cs s) :
      Spells ('\\' :: 'u' :: (digits ++ cs)) (d :: s)

/-- Characters that stand for themselves between quotes. -/
def isVerbatim (c : Char) : Bool := c != '"' && c != '\\' && 0x20 ≤ c.toNat

theorem spells_self {cs : List Char} (h : cs.all isVerbatim = true) : Spells cs cs := by
  induction cs with
  | nil => exact .nil
  | cons c cs ih =>
    obtain ⟨hc, hcs⟩ := (Bool.and_eq_true _ _).mp h
    simp only [isVerbatim, Bool.and_eq_true, bne_iff_ne, decide_eq_true_eq] at hc
    exact .plain hc.1.1 hc.1.2 hc.2 (ih hcs)

/-! ## Code points -/

theorem hexQuad_eq_some {cs : List Char} {n : Nat} (h : hexQuad cs = some n) :
    ∃ a b c d more, cs = a :: b :: c :: d :: more := by
  match cs, h with
  | a :: b :: c :: d :: more, _ => exact ⟨a, b, c, d, more, rfl⟩

theorem hexValue_ne_none {a b c d x : Char} {k : Nat} (hk : hexQuad [a, b, c, d] = some k)
    (hx : x ∈ [a, b, c, d]) : hexValue x ≠ none := by
  intro hvalue
  have hnone : hexQuad [a, b, c, d] = none := by
    simp only [List.mem_cons, List.not_mem_nil, or_false] at hx
    rcases hx with rfl | rfl | rfl | rfl <;> simp [hexQuad, hvalue]
  rw [hnone] at hk
  cases hk

/-- What stands behind the backslash of a code point is its letter or a digit. -/
theorem not_mem_code {a b c d x : Char} {k : Nat} (hk : hexQuad [a, b, c, d] = some k)
    (hx : hexValue x = none) (hu : x ≠ 'u') : x ∉ ['u', a, b, c, d] := fun hmem =>
  hexValue_ne_none hk ((List.mem_cons.mp hmem).resolve_left hu) hx

/-- A quote is no digit, so that digits are looked for before it. -/
theorem hexQuad_append_quote (cs rest : List Char) : hexQuad (cs ++ '"' :: rest) = hexQuad cs := by
  have hquote : hexValue '"' = none := by decide
  match cs with
  | [] =>
    match rest with
    | b :: c :: d :: more => simp [hexQuad, hquote]
    | [] | [_] | [_, _] => rfl
  | [a] =>
    match rest with
    | c :: d :: more => simp [hexQuad, hquote]
    | [] | [_] => rfl
  | [a, b] =>
    match rest with
    | d :: more => simp [hexQuad, hquote]
    | [] => rfl
  | [a, b, c] => simp [hexQuad, hquote]
  | a :: b :: c :: d :: more => rfl

/-- The digits of an escape that comes next. -/
def escapeQuad : List Char → Option Nat
  | '\\' :: 'u' :: more => hexQuad more
  | _ => none

theorem escapeQuad_eq_some {cs : List Char} {n : Nat} (h : escapeQuad cs = some n) :
    ∃ a b c d more, cs = '\\' :: 'u' :: a :: b :: c :: d :: more := by
  unfold escapeQuad at h
  split at h
  · obtain ⟨a, b, c, d, more, rfl⟩ := hexQuad_eq_some h
    exact ⟨a, b, c, d, more, rfl⟩
  · cases h

theorem escapeQuad_eq_none {cs : List Char} (h : ¬ ∃ more, cs = '\\' :: 'u' :: more) :
    escapeQuad cs = none := by
  unfold escapeQuad
  split
  · exact absurd ⟨_, rfl⟩ h
  · rfl

theorem escapeQuad_append_quote (cs rest : List Char) :
    escapeQuad (cs ++ '"' :: rest) = escapeQuad cs := by
  by_cases h : ∃ more, cs = '\\' :: 'u' :: more
  · obtain ⟨more, rfl⟩ := h
    exact hexQuad_append_quote more rest
  · rw [escapeQuad_eq_none h, escapeQuad_eq_none]
    rintro ⟨more, he⟩
    match cs with
    | [] => simp at he
    | [e] => simp at he
    | e :: f :: cs =>
      simp only [List.cons_append, List.cons.injEq] at he
      exact h ⟨cs, by rw [he.1, he.2.1]⟩

/-- The code point of two surrogates. -/
def surrogatePair (high low : Nat) : Option (Char × Nat) :=
  if 0xDC00 ≤ low && low < 0xE000 then
    some (Char.ofNat (0x10000 + (high - 0xD800) * 0x400 + (low - 0xDC00)), 10)
  else none

theorem codePoint_of_hexQuad {cs : List Char} {high : Nat} (h : hexQuad cs = some high) :
    codePoint cs =
      ((if 0xD800 ≤ high && high < 0xDC00 then
          (escapeQuad (cs.drop 4)).bind (surrogatePair high) else none).or
        (some (if 0xD800 ≤ high && high < 0xE000 then '\uFFFD' else Char.ofNat high, 4))) := by
  rw [codePoint, h]
  dsimp only
  generalize cs.drop 4 = next
  cases (0xD800 ≤ high && high < 0xDC00 : Bool) with
  | false => rfl
  | true =>
    rw [if_pos rfl, if_pos rfl]
    by_cases hnext : ∃ more, next = '\\' :: 'u' :: more
    · obtain ⟨more, rfl⟩ := hnext
      cases hlow : hexQuad more with
      | none => simp [escapeQuad, hlow]
      | some low =>
        simp only [escapeQuad, hlow, Option.bind_some, surrogatePair]
        cases (0xDC00 ≤ low && low < 0xE000 : Bool) <;> rfl
    · rw [escapeQuad_eq_none hnext]
      split
      · rename_i hpair
        split at hpair
        · exact absurd ⟨_, rfl⟩ hnext
        · cases hpair
      · rfl

/-- An escape ends before the quote that ends its string. -/
theorem codePoint_append_quote (cs rest : List Char) :
    codePoint (cs ++ '"' :: rest) = codePoint cs := by
  cases h : hexQuad cs with
  | none => rw [codePoint, codePoint, hexQuad_append_quote, h]
  | some high =>
    rw [codePoint_of_hexQuad h, codePoint_of_hexQuad ((hexQuad_append_quote cs rest).trans h)]
    obtain ⟨a, b, c, d, more, rfl⟩ := hexQuad_eq_some h
    have hdrop : ((a :: b :: c :: d :: more) ++ '"' :: rest).drop 4 = more ++ '"' :: rest := rfl
    rw [hdrop, escapeQuad_append_quote]
    rfl

/-- An escape has four digits, or is a pair of escapes. -/
theorem codePoint_cases {cs : List Char} {d : Char} {n : Nat} (h : codePoint cs = some (d, n)) :
    ∃ a b c e more, cs = a :: b :: c :: e :: more ∧ (hexQuad [a, b, c, e]).isSome ∧
      (n = 4 ∨ n = 10 ∧ ∃ f g i j rest, more = '\\' :: 'u' :: f :: g :: i :: j :: rest ∧
        (hexQuad [f, g, i, j]).isSome) := by
  cases hquad : hexQuad cs with
  | none =>
    rw [codePoint, hquad] at h
    cases h
  | some high =>
    rw [codePoint_of_hexQuad hquad, Option.or_eq_some_iff] at h
    obtain ⟨a, b, c, e, more, rfl⟩ := hexQuad_eq_some hquad
    refine ⟨a, b, c, e, more, rfl, Option.isSome_of_eq_some hquad, ?_⟩
    rcases h with hpair | ⟨-, hone⟩
    · split at hpair
      · obtain ⟨low, hlow, hsome⟩ := Option.bind_eq_some_iff.mp hpair
        unfold surrogatePair at hsome
        split at hsome
        · obtain ⟨f, g, i, j, rest, rfl⟩ := @escapeQuad_eq_some more _ hlow
          exact .inr ⟨(Prod.mk.inj (Option.some.inj hsome)).2.symm, f, g, i, j, rest, rfl,
            Option.isSome_of_eq_some hlow⟩
        · cases hsome
      · cases hpair
    · exact .inl (Prod.mk.inj (Option.some.inj hone)).2.symm

theorem length_of_codePoint {cs : List Char} {d : Char} {n : Nat} (h : codePoint cs = some (d, n)) :
    4 ≤ n ∧ n ≤ cs.length := by
  obtain ⟨a, b, c, e, more, rfl, -, rfl | ⟨rfl, f, g, i, j, rest, rfl, -⟩⟩ :=
    codePoint_cases h
  · simp only [List.length_cons]
    omega
  · simp only [List.length_cons]
    omega

/-! ## Reading -/

section Reading

variable (start offset : Nat) (acc : List Char)

theorem readChars_skip (skipped cs : List Char) :
    readChars start skipped.length (skipped ++ cs) offset acc =
      readChars start 0 cs (offset + skipped.length) acc := by
  induction skipped generalizing offset with
  | nil => rfl
  | cons c skipped ih =>
    rw [List.length_cons, List.cons_append, readChars, ih]
    congr 1
    omega

theorem readChars_quote (cs : List Char) :
    readChars start 0 ('"' :: cs) offset acc = .ok (acc.reverse, ⟨cs, offset + 1⟩) := by
  rw [readChars.eq_def]
  rfl

theorem readChars_plain {c : Char} (hquote : c ≠ '"') (hslash : c ≠ '\\')
    (hcontrol : 0x20 ≤ c.toNat) (cs : List Char) :
    readChars start 0 (c :: cs) offset acc = readChars start 0 cs (offset + 1) (c :: acc) := by
  rw [readChars.eq_def]
  simp [hquote, hslash, Nat.not_lt.mpr hcontrol]

theorem readChars_escape {e d : Char} (he : plainEscape e = some d) (cs : List Char) :
    readChars start 0 ('\\' :: e :: cs) offset acc =
      readChars start 0 cs (offset + 2) (d :: acc) := by
  have hu : e ≠ 'u' := by
    rintro rfl
    cases he
  have hskip := readChars_skip start (offset + 1) (d :: acc) [e] cs
  rw [List.length_singleton, List.singleton_append] at hskip
  rw [readChars.eq_def]
  simp only [Char.reduceBEq, Bool.false_eq_true, ↓reduceIte, Char.reduceToNat, Nat.reduceLT]
  rw [he]
  exact hskip

theorem readChars_code {d : Char} {digits cs : List Char}
    (hd : codePoint (digits ++ cs) = some (d, digits.length)) (hcs : cs ≠ []) :
    readChars start 0 ('\\' :: 'u' :: (digits ++ cs)) offset acc =
      readChars start 0 cs (offset + 2 + digits.length) (d :: acc) := by
  have hskip := readChars_skip start (offset + 1) (d :: acc) ('u' :: digits) cs
  have hfour : ((digits ++ cs).drop 4).isEmpty = false := by
    have hlength := (length_of_codePoint hd).1
    have hpos : 0 < cs.length := List.length_pos_iff.mpr hcs
    rw [List.isEmpty_eq_false_iff, ← List.length_pos_iff, List.length_drop, List.length_append]
    omega
  rw [readChars.eq_def]
  simp only [Char.reduceBEq, Bool.false_eq_true, ↓reduceIte, Char.reduceToNat, Nat.reduceLT]
  rw [hfour, if_neg Bool.false_ne_true, hd]
  refine hskip.trans ?_
  rw [List.length_cons, Nat.add_assoc, Nat.add_assoc, Nat.add_comm 1, Nat.add_comm 2]

end Reading

/-- A string is read up to the quote that ends it. -/
theorem readChars_spelled {body s : List Char} (h : Spells body s) (start offset : Nat)
    (acc rest : List Char) :
    ∃ offset', readChars start 0 (body ++ '"' :: rest) offset acc =
      .ok (acc.reverse ++ s, ⟨rest, offset'⟩) := by
  induction h generalizing offset acc with
  | nil => exact ⟨offset + 1, by rw [List.nil_append, readChars_quote, List.append_nil]⟩
  | @plain c cs s hquote hslash hcontrol h ih =>
    obtain ⟨offset', ih⟩ := ih (offset + 1) (c :: acc)
    refine ⟨offset', ?_⟩
    rw [List.cons_append, readChars_plain _ _ _ hquote hslash hcontrol, ih, List.reverse_cons,
      List.append_assoc, List.singleton_append]
  | @escape e d cs s he h ih =>
    obtain ⟨offset', ih⟩ := ih (offset + 2) (d :: acc)
    refine ⟨offset', ?_⟩
    rw [List.cons_append, List.cons_append, readChars_escape _ _ _ he, ih, List.reverse_cons,
      List.append_assoc, List.singleton_append]
  | @code d digits cs s hd h ih =>
    obtain ⟨offset', ih⟩ := ih (offset + 2 + digits.length) (d :: acc)
    refine ⟨offset', ?_⟩
    have hd' : codePoint (digits ++ (cs ++ '"' :: rest)) = some (d, digits.length) := by
      rw [← List.append_assoc, codePoint_append_quote, hd]
    rw [List.cons_append, List.cons_append, List.append_assoc, readChars_code _ _ _ hd' (by simp),
      ih, List.reverse_cons, List.append_assoc, List.singleton_append]

/-- What is read up to the quote that ends a string spells it. -/
theorem exists_spelled {start skip offset : Nat} {acc cs s : List Char} {r : Rest}
    (h : readChars start skip cs offset acc = .ok (s, r)) :
    ∃ body s', cs.drop skip = body ++ '"' :: r.chars ∧ s = acc.reverse ++ s' ∧ Spells body s' := by
  fun_induction readChars start skip cs offset acc with
  | case1 | case4 | case5 | case7 | case9 => cases h
  | case2 _ _ _ _ _ ih => exact ih h
  | case3 c cs offset acc hquote =>
    obtain ⟨rfl, rfl⟩ := Prod.mk.inj (Except.ok.inj h)
    exact ⟨[], [], by rw [beq_iff_eq.mp hquote]; rfl, (List.append_nil _).symm, .nil⟩
  | case6 c offset acc _ _ hslash more d n hcode ih =>
    obtain ⟨body, s', hmore, rfl, hspells⟩ := ih h
    rw [List.drop_succ_cons] at hmore
    have hd : codePoint more = some (d, n) := by
      split at hcode
      · cases hcode
      · exact hcode
    have htake : (more.take n).length = n := List.length_take_of_le (length_of_codePoint hd).2
    have hsplit : more = more.take n ++ (body ++ '"' :: r.chars) := by
      rw [← hmore, List.take_append_drop]
    have hd' : codePoint (more.take n ++ body) = some (d, (more.take n).length) := by
      rw [htake, ← codePoint_append_quote _ r.chars, List.append_assoc, ← hsplit, hd]
    refine ⟨'\\' :: 'u' :: (more.take n ++ body), d :: s', ?_, ?_, .code hd' hspells⟩
    · rw [List.drop_zero, List.cons_append, List.cons_append, List.append_assoc, ← hsplit,
        beq_iff_eq.mp hslash]
    · rw [List.reverse_cons, List.append_assoc, List.singleton_append]
  | case8 c offset acc _ _ hslash e more _ d he ih =>
    obtain ⟨body, s', hmore, rfl, hspells⟩ := ih h
    refine ⟨'\\' :: e :: body, d :: s', ?_, ?_, .escape he hspells⟩
    · rw [List.drop_zero, List.cons_append, List.cons_append, ← hmore, beq_iff_eq.mp hslash]
      rfl
    · rw [List.reverse_cons, List.append_assoc, List.singleton_append]
  | case10 c cs offset acc hquote hcontrol hslash ih =>
    obtain ⟨body, s', hmore, rfl, hspells⟩ := ih h
    refine ⟨c :: body, c :: s', ?_, ?_, .plain ?_ ?_ (Nat.le_of_not_lt hcontrol) hspells⟩
    · rw [List.drop_zero, List.cons_append, ← hmore, List.drop_zero]
    · rw [List.reverse_cons, List.append_assoc, List.singleton_append]
    · exact fun he => hquote (beq_iff_eq.mpr he)
    · exact fun he => hslash (beq_iff_eq.mpr he)

/-! ## What may stand between quotes -/

/-- What may stand between quotes: characters and escapes, each of them on its own. -/
inductive Literal : List Char → Prop
  | nil : Literal []
  | plain {c : Char} {cs : List Char} (hquote : c ≠ '"') (hslash : c ≠ '\\')
      (hcontrol : 0x20 ≤ c.toNat) (h : Literal cs) : Literal (c :: cs)
  | escape {e : Char} {cs : List Char} (he : (plainEscape e).isSome) (h : Literal cs) :
      Literal ('\\' :: e :: cs)
  | code {a b c d : Char} {cs : List Char} (hd : (hexQuad [a, b, c, d]).isSome) (h : Literal cs) :
      Literal ('\\' :: 'u' :: a :: b :: c :: d :: cs)

theorem Spells.literal {cs s : List Char} (h : Spells cs s) : Literal cs := by
  induction h with
  | nil => exact .nil
  | plain hquote hslash hcontrol _ ih => exact .plain hquote hslash hcontrol ih
  | escape he _ ih => exact .escape (by rw [he]; rfl) ih
  | @code d digits cs s hd _ ih =>
    obtain ⟨a, b, c, e, more, hdigits, hquad, hn⟩ := codePoint_cases hd
    rcases hn with hn | ⟨hn, f, g, i, j, rest, rfl, hlow⟩
    · have hone : digits ++ cs = [a, b, c, e] ++ more := hdigits
      obtain ⟨rfl, rfl⟩ := List.append_inj hone hn
      exact .code hquad ih
    · have htwo : digits ++ cs = [a, b, c, e, '\\', 'u', f, g, i, j] ++ rest := hdigits
      obtain ⟨rfl, rfl⟩ := List.append_inj htwo hn
      exact .code hquad (.code hlow ih)

/-- Whether two surrogates make one character hangs on what follows the first, so
a text is read together with what would follow an escape before it. -/
theorem Literal.spells_and {cs : List Char} (h : Literal cs) : (∃ s, Spells cs s) ∧
    ∀ a b c d more, cs = '\\' :: 'u' :: a :: b :: c :: d :: more → ∃ s, Spells more s := by
  induction h with
  | nil => exact ⟨⟨_, .nil⟩, nofun⟩
  | plain hquote hslash hcontrol _ ih =>
    obtain ⟨⟨s, hs⟩, -⟩ := ih
    refine ⟨⟨_, .plain hquote hslash hcontrol hs⟩, fun a b c d more he => ?_⟩
    exact absurd (List.cons.inj he).1 hslash
  | escape he _ ih =>
    obtain ⟨⟨s, hs⟩, -⟩ := ih
    obtain ⟨d, hd⟩ := Option.isSome_iff_exists.mp he
    refine ⟨⟨_, .escape hd hs⟩, fun a b c d more heq => ?_⟩
    rw [(List.cons.inj (List.cons.inj heq).2).1] at he
    cases he
  | @code a b c d cs hd _ ih =>
    obtain ⟨⟨s, hs⟩, hpair⟩ := ih
    refine ⟨?_, fun a' b' c' d' more heq => ?_⟩
    · obtain ⟨high, hhigh⟩ := Option.isSome_iff_exists.mp hd
      have hquad : hexQuad (a :: b :: c :: d :: cs) = some high := hhigh
      obtain ⟨⟨x, n⟩, hx⟩ : ∃ y, codePoint (a :: b :: c :: d :: cs) = some y := by
        rw [codePoint_of_hexQuad hquad, ← Option.isSome_iff_exists, Option.isSome_or]
        exact Bool.or_true _
      obtain ⟨_, _, _, _, more, heq, -, hn⟩ := codePoint_cases hx
      simp only [List.cons.injEq] at heq
      obtain ⟨rfl, rfl, rfl, rfl, rfl⟩ := heq
      rcases hn with rfl | ⟨rfl, f, g, i, j, rest, rfl, -⟩
      · have hone : codePoint ([a, b, c, d] ++ cs) = some (x, [a, b, c, d].length) := hx
        exact ⟨_, .code hone hs⟩
      · obtain ⟨s', hs'⟩ := hpair f g i j rest rfl
        have htwo : codePoint ([a, b, c, d, '\\', 'u', f, g, i, j] ++ rest) =
            some (x, [a, b, c, d, '\\', 'u', f, g, i, j].length) := hx
        exact ⟨_, .code htwo hs'⟩
    · simp only [List.cons.injEq] at heq
      exact heq.2.2.2.2.2.2 ▸ ⟨s, hs⟩

theorem Literal.spells {cs : List Char} (h : Literal cs) : ∃ s, Spells cs s := h.spells_and.1

end RouteDoc.Json
