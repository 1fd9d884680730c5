import Mathlib.Data.List.Forall2
import RouteDoc.Proofs.Text.Ascii
import RouteDoc.Text.Case

/-!
# Endings in lower case

In lower case a letter may become several, and a sigma is written by where it stands. Most
letters of ASCII come from no other letter than their own capital, so that a text ends in them
just if it does letter by letter.

* `isOwnLetter`: the small letters that only they and their capitals become;
* `LowersTo`: what a character may become in lower case, wherever it stands;
* `suffix_lowerList_iff`: a text in lower case that ends in own letters;
* `lowerList_of_small`: small letters stay as they are.
-/

namespace RouteDoc.Text

/-- The small letters that only they and their capitals become. The sign of the kelvin becomes a
`k`. -/
def isOwnLetter (c : Char) : Bool := 97 ≤ c.toNat && c.toNat ≤ 122 && c != 'k'

theorem isOwnLetter_of_le {c : Char} (hc : 128 ≤ c.toNat) : isOwnLetter c = false := by
  simp only [isOwnLetter, Bool.and_eq_false_iff, decide_eq_false_iff_not]
  omega

theorem isOwnLetter_ofNat {n : Nat} (h : 128 ≤ n) : isOwnLetter (Char.ofNat n) = false := by
  rcases toNat_ofNat_or n with hn | hn
  · exact isOwnLetter_of_le (hn.symm ▸ h)
  · rw [hn]
    rfl

/-! ## Single characters -/

theorem toLower_of_le {c : Char} (hc : 128 ≤ c.toNat) : c.toLower = c := by
  unfold Char.toLower
  split
  · rename_i hupper
    have hle : c.toNat ≤ 90 := hupper.2
    omega
  · rfl

/-- Letters beyond ASCII stay there, but for the sign of the kelvin. -/
theorem lowerRanges_spec : ∀ r ∈ lowerRanges.toList,
    r.last < 128 ∨ r.first = r.last ∧ r.first + r.shift = 107 ∨ 128 ≤ r.first + r.shift := by
  decide +kernel

/-- What a letter beyond ASCII becomes does not end in an own letter. -/
theorem exists_getLast?_lowerChar {c : Char} (hc : 128 ≤ c.toNat) :
    ∃ d, (lowerChar c).getLast? = some d ∧ isOwnLetter d = false := by
  rw [lowerChar, if_neg (Nat.not_lt.mpr hc), mapCase]
  split
  · rename_i ns hfind
    obtain ⟨-, rfl⟩ := Prod.mk.inj (List.mem_singleton.mp (List.mem_of_find?_eq_some hfind))
    exact ⟨_, rfl, by decide⟩
  · split
    · rename_i r hr
      have hspec := lowerRanges_spec r (Array.mem_toList_iff.mpr (Array.mem_of_find?_eq_some hr))
      have hin := Array.find?_some hr
      simp only [Bool.and_eq_true, decide_eq_true_eq, beq_iff_eq] at hin
      refine ⟨_, rfl, ?_⟩
      rcases hspec with hlast | ⟨hone, hk⟩ | hfar
      · omega
      · have hcode : ((c.toNat : Int) + r.shift).toNat = 107 := by omega
        rw [hcode]
        decide
      · exact isOwnLetter_ofNat (by omega)
    · exact ⟨c, rfl, isOwnLetter_of_le hc⟩

/-- What a character may become in lower case, wherever it stands. -/
def LowersTo (c : Char) (ds : List Char) : Prop := ds = lowerChar c ∨ c = 'Σ' ∧ ds = ['ς']

/-- A character becomes one letter, or it is no capital of an own letter and does not become
something that ends in one. -/
theorem LowersTo.cases {c : Char} {ds : List Char} (h : LowersTo c ds) : ds = [c.toLower] ∨
    isOwnLetter c.toLower = false ∧ ∃ d, ds.getLast? = some d ∧ isOwnLetter d = false := by
  by_cases hc : c.toNat < 128
  · rcases h with rfl | ⟨rfl, -⟩
    · exact .inl (if_pos hc)
    · exact absurd hc (by decide)
  · have hc : 128 ≤ c.toNat := Nat.le_of_not_lt hc
    rw [toLower_of_le hc]
    refine .inr ⟨isOwnLetter_of_le hc, ?_⟩
    rcases h with rfl | ⟨-, rfl⟩
    · exact exists_getLast?_lowerChar hc
    · exact ⟨_, rfl, by decide⟩

/-! ## Endings -/

theorem exists_lowerFrom (before cs : List Char) :
    ∃ parts, List.Forall₂ LowersTo cs parts ∧ lowerFrom before cs = parts.flatten := by
  induction cs generalizing before with
  | nil => exact ⟨[], .nil, rfl⟩
  | cons c cs ih =>
    obtain ⟨parts, hparts, heq⟩ := ih (c :: before)
    rw [lowerFrom, heq]
    split
    · rename_i hsigma
      simp only [Bool.and_eq_true, beq_iff_eq] at hsigma
      exact ⟨['ς'] :: parts, .cons (.inr ⟨hsigma.1, rfl⟩) hparts, rfl⟩
    · exact ⟨lowerChar c :: parts, .cons (.inl rfl) hparts, rfl⟩

/-- Read from the end, own letters come one from each character. -/
theorem prefix_reversed_iff {cs : List Char} {parts : List (List Char)}
    (h : List.Forall₂ LowersTo cs parts) {e : List Char} (he : ∀ d ∈ e, isOwnLetter d = true) :
    e <+: (parts.map List.reverse).flatten ↔ e <+: cs.map Char.toLower := by
  induction h generalizing e with
  | nil => rfl
  | @cons c ds cs parts hc _ ih =>
    cases e with
    | nil => simp
    | cons d e =>
      obtain ⟨hd, he⟩ := List.forall_mem_cons.mp he
      have hne : ∀ x, isOwnLetter x = false → d ≠ x := by
        rintro x hx rfl
        exact Bool.false_ne_true (hx.symm.trans hd)
      rcases hc.cases with rfl | ⟨hlower, x, hlast, hx⟩
      · simp [List.cons_prefix_cons, ih he]
      · obtain ⟨init, rfl⟩ := List.getLast?_eq_some_iff.mp hlast
        simp [List.cons_prefix_cons, hne x hx, hne _ hlower]

/-- A text in lower case ends in own letters just if it does letter by letter. -/
theorem suffix_lowerList_iff {e cs : List Char} (he : ∀ d ∈ e, isOwnLetter d = true) :
    e <:+ lowerList cs ↔ e <:+ cs.map Char.toLower := by
  obtain ⟨parts, hparts, heq⟩ := exists_lowerFrom [] cs
  rw [lowerList, heq, ← List.reverse_prefix, ← @List.reverse_prefix _ e (cs.map Char.toLower),
    List.reverse_flatten, ← List.map_reverse, ← List.map_reverse]
  exact prefix_reversed_iff (List.forall₂_reverse_iff.mpr hparts)
    fun d hd => he d (List.mem_reverse.mp hd)

/-! ## Small letters -/

section Small

variable {c : Char} {cs : List Char}

theorem toNat_of_small (h : 'a' ≤ c ∧ c ≤ 'z') : 97 ≤ c.toNat ∧ c.toNat ≤ 122 := h

theorem toLower_of_small (h : 'a' ≤ c ∧ c ≤ 'z') : c.toLower = c := by
  have hc := toNat_of_small h
  unfold Char.toLower
  split
  · rename_i hupper
    have hle : c.toNat ≤ 90 := hupper.2
    omega
  · rfl

theorem map_toLower_of_small (h : ∀ c ∈ cs, 'a' ≤ c ∧ c ≤ 'z') : cs.map Char.toLower = cs := by
  rw [List.map_congr_left fun c hc => toLower_of_small (h c hc), List.map_id']

theorem lowerFrom_of_small (h : ∀ c ∈ cs, 'a' ≤ c ∧ c ≤ 'z') (before : List Char) :
    lowerFrom before cs = cs := by
  induction cs generalizing before with
  | nil => rfl
  | cons c cs ih =>
    obtain ⟨hc, hcs⟩ := List.forall_mem_cons.mp h
    have hle := toNat_of_small hc
    have hsigma : (c == 'Σ') = false := by
      rw [beq_eq_false_iff_ne]
      rintro rfl
      exact absurd hle.2 (by decide)
    have hchar : lowerChar c = [c] := by
      rw [lowerChar, if_pos (by omega), toLower_of_small hc]
    rw [lowerFrom, ih hcs, hsigma, hchar]
    rfl

theorem lowerList_of_small (h : ∀ c ∈ cs, 'a' ≤ c ∧ c ≤ 'z') : lowerList cs = cs :=
  lowerFrom_of_small h []

end Small

end RouteDoc.Text
