import RouteDoc.Proofs.Number.Order

/-!
# The format of binary64 numbers

Rounding gives numbers of the format only, and an infinity only for what is greater
than all of them.

* `InFormat`, `IsFinite`: the numbers that 64 bits hold, and the finite ones;
* `inFormat_add`, `inFormat_mul`: what arithmetic gives is in the format;
* `finite_add_cases`: a sum of finite numbers is finite, or both have the sign of the
  infinity that it is;
* `le_add`, `le_mul_ofInt`: what a sum and a multiple are at least.
-/

namespace RouteDoc.Number

namespace Binary64

/-- A number as 64 bits hold it: if it is finite, its mantissa and its exponent are in
their ranges. -/
def InFormat : Binary64 → Prop
  | .finite _ m e => m < 2 ^ 53 ∧ minExponent ≤ e ∧ e ≤ maxExponent
  | _ => True

instance : DecidablePred InFormat
  | .nan => inferInstanceAs (Decidable True)
  | .infinite _ => inferInstanceAs (Decidable True)
  | .finite _ m e => inferInstanceAs (Decidable (m < 2 ^ 53 ∧ minExponent ≤ e ∧ e ≤ maxExponent))

/-- A finite number of the format. -/
def IsFinite : Binary64 → Prop
  | .finite a m e => InFormat (.finite a m e)
  | _ => False

instance : DecidablePred IsFinite
  | .nan => inferInstanceAs (Decidable False)
  | .infinite _ => inferInstanceAs (Decidable False)
  | .finite a m e => inferInstanceAs (Decidable (InFormat (.finite a m e)))

theorem isFinite_iff {x : Binary64} : IsFinite x ↔ InFormat x ∧ ∃ a m e, x = .finite a m e := by
  cases x <;> simp [IsFinite]

/-- The greatest finite number. -/
def greatest : Binary64 := .finite false (2 ^ 53 - 1) maxExponent

theorem toRat_greatest : toRat greatest = (2 ^ 53 - 1) * (2 : Rat) ^ maxExponent := by
  rw [greatest, toRat_finite]
  norm_num [signed]

theorem abs_toRat (a : Bool) (m : Nat) (e : Int) :
    |toRat (.finite a m e)| = (m : Rat) * 2 ^ e := by
  have hunit : (0 : Rat) < 2 ^ e := zpow_pos two_pos e
  rw [toRat_finite, abs_mul, abs_of_pos hunit]
  cases a <;> simp [signed]

theorem InFormat.abs_le {a : Bool} {m : Nat} {e : Int} (h : InFormat (.finite a m e)) :
    |toRat (.finite a m e)| ≤ toRat greatest := by
  obtain ⟨hm, -, he⟩ := h
  have hm : (m : Rat) + 1 ≤ 2 ^ 53 := by exact_mod_cast hm
  rw [abs_toRat, toRat_greatest]
  refine mul_le_mul ?_ (zpow_le_zpow_right₀ one_le_two he) (by positivity) (by norm_num)
  linarith

/-! ## Rounding -/

theorem roundDiv_le {k num den : Nat} (hden : 0 < den) (h : num ≤ k * den) :
    roundDiv num den ≤ k := by
  have hdiv : num / den ≤ k := Nat.div_le_of_le_mul (by rwa [Nat.mul_comm])
  have hsplit := Nat.div_add_mod num den
  rw [roundDiv]
  by_cases hk : num / den = k
  · -- Nothing is left over.
    have hmod : num % den = 0 := by
      rw [hk, Nat.mul_comm] at hsplit
      omega
    rw [if_pos (by omega)]
    exact hdiv
  · split
    · exact hdiv
    · split <;> omega

/-- The mantissa of a rounding is at most every integer that the quotient is at most. -/
theorem quotientMantissa_le {k num den : Nat} (hden : 0 < den)
    (h : num / den / (2 : Rat) ^ quotientExponent num den ≤ k) : quotientMantissa num den ≤ k := by
  obtain ⟨hpos, heq⟩ := scaled_spec num hden (quotientExponent num den)
  rw [← heq, div_le_iff₀ (by exact_mod_cast hpos)] at h
  exact roundDiv_le hpos (by exact_mod_cast h)

theorem minExponent_le_quotientExponent (num den : Nat) :
    minExponent ≤ quotientExponent num den := le_max_left _ _

/-- A quotient is bounded by the numbers of digits of its parts. -/
theorem quotient_le_zpow (num : Nat) {den : Nat} (hden : 0 < den) :
    (num : Rat) / den ≤ 2 ^ 53 * 2 ^ ((Nat.log2 num : Int) - Nat.log2 den - 53 + 1) := by
  have hnum : (num : Rat) ≤ 2 ^ (num.log2 + 1) := by exact_mod_cast Nat.lt_log2_self.le
  have hden' : (2 : Rat) ^ den.log2 ≤ den := by exact_mod_cast Nat.log2_self_le hden.ne'
  rw [div_le_iff₀ (by exact_mod_cast hden)]
  calc (num : Rat) ≤ 2 ^ (num.log2 + 1) := hnum
    _ = 2 ^ 53 * 2 ^ ((num.log2 : Int) - den.log2 - 53 + 1) * 2 ^ den.log2 := by
        rw [← zpow_natCast, ← zpow_natCast, ← zpow_natCast, ← zpow_add₀ two_ne_zero,
          ← zpow_add₀ two_ne_zero]
        congr 1
        push_cast
        ring
    _ ≤ 2 ^ 53 * 2 ^ ((num.log2 : Int) - den.log2 - 53 + 1) * den :=
        mul_le_mul_of_nonneg_left hden' (by positivity)

/-- The mantissa of a rounding has no more than 53 digits before it is rounded. -/
theorem quotient_le (num : Nat) {den : Nat} (hden : 0 < den) :
    num / den / (2 : Rat) ^ quotientExponent num den ≤ 2 ^ 53 := by
  rw [div_le_iff₀ (zpow_pos two_pos _)]
  unfold quotientExponent
  extract_lets low
  split
  · refine (quotient_le_zpow num hden).trans (mul_le_mul_of_nonneg_left ?_ (by norm_num))
    exact zpow_le_zpow_right₀ one_le_two (le_max_right _ _)
  · rename_i hfew
    obtain ⟨hpos, heq⟩ := scaled_spec num hden low
    have hfloor : (scaled num den low).1 ≤ 2 ^ 53 * (scaled num den low).2 :=
      ((Nat.div_lt_iff_lt_mul hpos).mp (Nat.lt_of_not_le hfew)).le
    have hlow : (num : Rat) / den / 2 ^ low ≤ 2 ^ 53 := by
      rw [← heq, div_le_iff₀ (by exact_mod_cast hpos)]
      exact_mod_cast hfloor
    rw [div_le_iff₀ (zpow_pos two_pos _)] at hlow
    refine hlow.trans (mul_le_mul_of_nonneg_left ?_ (by norm_num))
    exact zpow_le_zpow_right₀ one_le_two (le_max_right _ _)

theorem carry_fst_lt {m : Nat} (h : m ≤ 2 ^ 53) (e : Int) : (carry m e).1 < 2 ^ 53 := by
  by_cases hm : m = 2 ^ 53
  · rw [hm, carry_two_pow]
    exact Nat.pow_lt_pow_right (by decide) (by decide)
  · rw [carry_of_ne hm]
    exact lt_of_le_of_ne h hm

theorem carry_snd (m : Nat) (e : Int) : e ≤ (carry m e).2 ∧ (carry m e).2 ≤ e + 1 := by
  by_cases hm : m = 2 ^ 53
  · rw [hm, carry_two_pow]
    show e ≤ e + 1 ∧ e + 1 ≤ e + 1
    omega
  · rw [carry_of_ne hm]
    show e ≤ e ∧ e ≤ e + 1
    omega

/-- Rounding a quotient gives a number of the format. -/
theorem inFormat_ofRatio (negative : Bool) (num : Nat) {den : Nat} (hden : 0 < den) :
    InFormat (ofRatio negative num den) := by
  by_cases hnum : num = 0
  · subst hnum
    show InFormat (zero negative)
    cases negative <;> decide
  have hmantissa : quotientMantissa num den ≤ 2 ^ 53 :=
    quotientMantissa_le hden (by exact_mod_cast quotient_le num hden)
  have hmin := minExponent_le_quotientExponent num den
  have hcarry := carry_snd (quotientMantissa num den) (quotientExponent num den)
  rw [ofRatio_eq negative hnum]
  dsimp only
  split
  · exact trivial
  · rename_i hmax
    exact ⟨carry_fst_lt hmantissa _, hmin.trans hcarry.1, Int.not_lt.mp hmax⟩

/-- A quotient is rounded to a finite number if it is at most the greatest one. -/
theorem exists_of_le_greatest (negative : Bool) (num : Nat) {den : Nat} (hden : 0 < den)
    (h : (num : Rat) / den ≤ toRat greatest) :
    ∃ m e, ofRatio negative num den = .finite negative m e := by
  by_cases hnum : num = 0
  · subst hnum
    exact ⟨0, minExponent, rfl⟩
  rw [ofRatio_eq negative hnum]
  dsimp only
  split
  case isFalse => exact ⟨_, _, rfl⟩
  case isTrue hmax =>
    exfalso
    rw [toRat_greatest] at h
    have hlarge : maxExponent ≤ quotientExponent num den := by
      have hcarry := (carry_snd (quotientMantissa num den) (quotientExponent num den)).2
      omega
    have hdigits := (quotientExponent_spec hnum hden).resolve_left fun he => by
      rw [he] at hlarge
      exact absurd hlarge (by decide)
    rw [le_div_iff₀ (zpow_pos two_pos _)] at hdigits
    have hexponent : quotientExponent num den = maxExponent := by
      refine le_antisymm ?_ hlarge
      by_contra hlt
      have hpow : (2 : Rat) ^ (maxExponent + 1) ≤ 2 ^ quotientExponent num den :=
        zpow_le_zpow_right₀ one_le_two (by omega)
      rw [zpow_add₀ two_ne_zero, zpow_one] at hpow
      have hunit : (0 : Rat) < 2 ^ maxExponent := zpow_pos two_pos _
      linarith
    -- The exponent is the greatest, so that the mantissa is too small to be rounded up.
    have hmantissa : quotientMantissa num den ≤ 2 ^ 53 - 1 := by
      refine quotientMantissa_le hden ?_
      rw [hexponent, div_le_iff₀ (zpow_pos two_pos _)]
      exact_mod_cast h
    rw [carry_of_ne (by omega), hexponent] at hmax
    exact absurd hmax (lt_irrefl _)

theorem inFormat_ofDyadic (negative : Bool) (m : Nat) (e : Int) :
    InFormat (ofDyadic negative m e) := by
  obtain ⟨num, den, hden, heq, -⟩ := exists_ofRatio negative m e
  rw [heq]
  exact inFormat_ofRatio negative num hden

theorem ofDyadic_of_le_greatest (negative : Bool) {m : Nat} {e : Int}
    (h : (m : Rat) * 2 ^ e ≤ toRat greatest) :
    ∃ n f, ofDyadic negative m e = .finite negative n f := by
  obtain ⟨num, den, hden, heq, hratio⟩ := exists_ofRatio negative m e
  rw [heq]
  exact exists_of_le_greatest negative num hden (hratio.trans_le h)

theorem ofDyadic_cases (negative : Bool) (m : Nat) (e : Int) :
    ofDyadic negative m e = .infinite negative ∨
      ∃ n f, ofDyadic negative m e = .finite negative n f := by
  obtain ⟨num, den, -, heq, -⟩ := exists_ofRatio negative m e
  rw [heq]
  by_cases hnum : num = 0
  · subst hnum
    exact .inr ⟨0, minExponent, rfl⟩
  · exact (ofRatio_cases negative hnum den).imp id fun ⟨n, f, h, _⟩ => ⟨n, f, h⟩

/-! ## Sums -/

theorem inFormat_add (x y : Binary64) : InFormat (x + y) := by
  cases x with
  | nan => exact trivial
  | infinite a =>
    cases y with
    | nan | finite => exact trivial
    | infinite b =>
      show InFormat (if a == b then .infinite a else .nan)
      split <;> exact trivial
  | finite a m e =>
    cases y with
    | nan | infinite => exact trivial
    | finite b n f =>
      rw [finite_add]
      split
      · cases a <;> cases b <;> decide
      · exact inFormat_ofDyadic _ _ _

theorem toRat_nonneg (m : Nat) (e : Int) : 0 ≤ toRat (.finite false m e) := by
  rw [toRat_finite]
  exact mul_nonneg (by simp [signed]) (by positivity)

theorem toRat_nonpos (m : Nat) (e : Int) : toRat (.finite true m e) ≤ 0 := by
  rw [toRat_finite]
  exact mul_nonpos_of_nonpos_of_nonneg (by simp [signed]) (by positivity)

section Sum

variable {a b : Bool} {m n : Nat} {e f : Int}

/-- A sum of finite numbers is finite if it is at most the greatest of them in
magnitude. -/
theorem isFinite_add
    (h : |toRat (.finite a m e) + toRat (.finite b n f)| ≤ toRat greatest) :
    IsFinite (.finite a m e + .finite b n f) := by
  have hunit : (0 : Rat) < 2 ^ Min.min e f := zpow_pos two_pos _
  have hmagnitude : |(unitSum a b m n e f : Rat) * 2 ^ Min.min e f| =
      (unitSum a b m n e f).natAbs * 2 ^ Min.min e f := by
    rw [abs_mul, abs_of_pos hunit, Nat.cast_natAbs, Int.cast_abs]
  rw [unitSum_spec, hmagnitude] at h
  refine isFinite_iff.mpr ⟨inFormat_add _ _, ?_⟩
  rw [finite_add]
  split
  · exact ⟨_, _, _, rfl⟩
  · obtain ⟨k, g, heq⟩ := ofDyadic_of_le_greatest (decide (unitSum a b m n e f < 0)) h
    exact ⟨_, k, g, heq⟩

/-- A sum of finite numbers is finite, or it is infinite with the sign that both have. -/
theorem finite_add_cases (hx : InFormat (.finite a m e)) (hy : InFormat (.finite b n f)) :
    IsFinite (.finite a m e + .finite b n f) ∨
      (a = b ∧ Binary64.finite a m e + .finite b n f = .infinite b) := by
  have hx := abs_le.mp hx.abs_le
  have hy := abs_le.mp hy.abs_le
  by_cases hab : a = b
  · subst hab
    have hsign : unitSum a a m n e f = 0 ∨ decide (unitSum a a m n e f < 0) = a := by
      unfold unitSum
      generalize m * Nat.pow 2 _ = k
      generalize n * Nat.pow 2 _ = l
      cases a <;> simp [signed] <;> omega
    have hcases : (∃ c k g, Binary64.finite a m e + .finite a n f = .finite c k g) ∨
        Binary64.finite a m e + .finite a n f = .infinite a := by
      rw [finite_add]
      split
      · exact .inl ⟨_, _, _, rfl⟩
      · rename_i hne
        rw [hsign.resolve_left (by simpa using hne)]
        rcases ofDyadic_cases a (unitSum a a m n e f).natAbs (Min.min e f) with h | ⟨k, g, h⟩
        · exact .inr h
        · exact .inl ⟨a, k, g, h⟩
    exact hcases.imp (fun h => isFinite_iff.mpr ⟨inFormat_add _ _, h⟩) fun h => ⟨rfl, h⟩
  · -- Numbers of different signs are not greater together than each alone.
    refine .inl (isFinite_add (abs_le.mpr ?_))
    cases a <;> cases b
    · exact absurd rfl hab
    · have := toRat_nonneg m e
      have := toRat_nonpos n f
      constructor <;> linarith
    · have := toRat_nonpos m e
      have := toRat_nonneg n f
      constructor <;> linarith
    · exact absurd rfl hab

end Sum

theorem add_ne_nan {x y : Binary64} (hx : x ≠ .nan) (hy : IsFinite y) : x + y ≠ .nan := by
  obtain ⟨-, b, n, f, rfl⟩ := isFinite_iff.mp hy
  cases x with
  | nan => exact absurd rfl hx
  | infinite a => exact nofun
  | finite a m e =>
    rw [finite_add]
    split
    · exact nofun
    · rcases ofDyadic_cases (decide (unitSum a b m n e f < 0)) (unitSum a b m n e f).natAbs
        (Min.min e f) with heq | ⟨k, g, heq⟩ <;> rw [heq] <;> exact nofun

theorem nonneg_zero : Nonneg (zero false) := le_refl _

theorem nonneg_add {x y : Binary64} (hx : Nonneg x) (hy : Nonneg y) : Nonneg (x + y) :=
  le_value_add (Nat.zero_le _) (Int.le_refl _) hx hy (.inl hx)

/-- A sum of numbers that are not negative is at least what one of them is at least. -/
theorem le_add {c x y : Binary64} (hc : InFormat c) (hx : Nonneg x) (hy : Nonneg y)
    (h : value c ≤ value x ∨ value c ≤ value y) : value c ≤ value (x + y) := by
  cases c with
  | nan => exact bot_le
  | infinite a =>
    cases a with
    | true => exact bot_le
    | false =>
      rcases hx.cases with rfl | ⟨a, m, e, rfl, -⟩ <;> rcases hy.cases with rfl | ⟨b, n, f, rfl, -⟩
      · exact le_refl _
      · exact le_refl _
      · exact le_refl _
      · rcases h with h | h <;> simp [value] at h
  | finite a m e =>
    cases a with
    | false => exact le_value_add hc.1.le hc.2.1 hx hy h
    | true =>
      have hneg : value (.finite true m e) ≤ value (zero false) := by
        rw [zero, value, value, WithBot.coe_le_coe, WithTop.coe_le_coe]
        exact (toRat_nonpos m e).trans (toRat_nonneg 0 minExponent)
      exact hneg.trans (nonneg_add hx hy)

/-! ## Products -/

theorem inFormat_mul (x y : Binary64) : InFormat (x * y) := by
  cases x with
  | nan => exact trivial
  | infinite a =>
    cases y with
    | nan | infinite => exact trivial
    | finite b n f =>
      show InFormat (if n == 0 then .nan else .infinite (a != b))
      split <;> exact trivial
  | finite a m e =>
    cases y with
    | nan => exact trivial
    | infinite b =>
      show InFormat (if m == 0 then .nan else .infinite (a != b))
      split <;> exact trivial
    | finite b n f => exact inFormat_ofDyadic _ _ _

/-- Counts up to three are numbers of the format. -/
theorem exists_ofInt {n : Nat} (hn : n ∈ [1, 2, 3]) :
    ∃ m e, ofInt (n : Int) = .finite false m e ∧ (1 : Rat) ≤ m * 2 ^ e := by
  have hcases : n = 1 ∨ n = 2 ∨ n = 3 := by simpa using hn
  rcases hcases with rfl | rfl | rfl
  · exact ⟨2 ^ 52, -52, by decide, by norm_num⟩
  · exact ⟨2 ^ 52, -51, by decide, by norm_num⟩
  · exact ⟨3 * 2 ^ 51, -51, by decide, by norm_num⟩

section Product

variable {n : Nat} (hn : n ∈ [1, 2, 3])

include hn

/-- A multiple of a finite number is finite, or infinite with its sign. -/
theorem finite_mul_ofInt (a : Bool) (m : Nat) (e : Int) :
    Binary64.finite a m e * ofInt (n : Int) = .infinite a ∨
      ∃ k g, Binary64.finite a m e * ofInt (n : Int) = .finite a k g := by
  obtain ⟨l, f, hint, -⟩ := exists_ofInt hn
  rw [hint]
  show ofDyadic (a != false) (m * l) (e + f) = _ ∨ ∃ k g, ofDyadic (a != false) (m * l) (e + f) = _
  rw [Bool.bne_false]
  exact ofDyadic_cases a (m * l) (e + f)

/-- A multiple of a positive number is at least that number. -/
theorem le_mul_ofInt {w : Binary64} (hw : InFormat w) (hpos : value (zero false) < value w) :
    value w ≤ value (w * ofInt (n : Int)) := by
  obtain ⟨l, f, hint, hone⟩ := exists_ofInt hn
  rw [hint]
  rcases Nonneg.cases hpos.le with rfl | ⟨a, m, e, rfl, -⟩
  · have hl : l ≠ 0 := by
      rintro rfl
      norm_num at hone
    show value (.infinite false) ≤ value (if l == 0 then .nan else .infinite (false != false))
    rw [if_neg (by simpa using hl)]
    exact le_refl _
  · cases a with
    | true =>
      rw [zero, value, value, WithBot.coe_lt_coe, WithTop.coe_lt_coe] at hpos
      exact absurd ((toRat_nonneg 0 minExponent).trans_lt hpos) (toRat_nonpos m e).not_gt
    | false =>
      refine le_value_ofDyadic hw.1.le hw.2.1 ?_
      have hnonneg := toRat_nonneg m e
      calc toRat (.finite false m e) ≤ toRat (.finite false m e) * (l * 2 ^ f) :=
            le_mul_of_one_le_right hnonneg hone
        _ = toRat (.finite false (m * l) (e + f)) := by
            rw [toRat_finite, toRat_finite, signed_mul, zpow_add₀ two_ne_zero]
            push_cast
            ring

end Product

end Binary64

end RouteDoc.Number
