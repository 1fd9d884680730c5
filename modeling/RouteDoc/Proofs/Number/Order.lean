import Mathlib.Algebra.Order.Field.Power
import Mathlib.Algebra.Order.Field.Rat
import Mathlib.Data.Nat.Cast.Order.Field
import Mathlib.Data.Rat.Lemmas
import Mathlib.Order.WithBot
import Mathlib.Tactic.Linarith
import Mathlib.Tactic.Ring
import RouteDoc.Number.Binary64

/-!
# The order of binary64 numbers

Numbers are ordered as their values are, and rounding respects the order.

* `Binary64.value`: the value of a number, infinities included;
* `Binary64.lt_iff`: one number is less than another if its value is;
* `Binary64.le_value_ofRatio`: a number that can be written is at most the
  rounding of what it is at most;
* `Binary64.le_value_add`: a sum of numbers that are not negative is at least
  each of them.
-/

namespace RouteDoc.Number

namespace Binary64

/-- The value of a number. What is no number counts as the least. -/
def value : Binary64 → WithBot (WithTop Rat)
  | .nan | .infinite true => ⊥
  | .infinite false => ((⊤ : WithTop Rat) : WithBot (WithTop Rat))
  | .finite a m e => ((toRat (.finite a m e) : WithTop Rat) : WithBot (WithTop Rat))

theorem signed_mul (a : Bool) (m k : Nat) : signed a (m * k) = signed a m * k := by
  cases a <;> simp [signed]

theorem toRat_finite (a : Bool) (m : Nat) (e : Int) :
    toRat (.finite a m e) = signed a m * (2 : Rat) ^ e := by
  by_cases he : 0 ≤ e
  · obtain ⟨k, rfl⟩ := Int.eq_ofNat_of_zero_le he
    simp only [toRat, ratio, if_pos he]
    rw [Rat.mkRat_one, signed_mul]
    simp
  · obtain ⟨k, rfl⟩ : ∃ k : Nat, e = -(k : Int) := ⟨(-e).toNat, by omega⟩
    simp only [toRat, ratio, if_neg he]
    rw [Rat.mkRat_eq_div]
    simp [div_eq_mul_inv]

/-- The value of a number with a smaller exponent. -/
theorem toRat_shift (a : Bool) (m : Nat) {e g : Int} (h : g ≤ e) :
    toRat (.finite a m e) = signed a (m * Nat.pow 2 (e - g).toNat) * (2 : Rat) ^ g := by
  obtain ⟨k, rfl⟩ : ∃ k : Nat, e = g + k := ⟨(e - g).toNat, by omega⟩
  rw [toRat_finite, signed_mul, zpow_add₀ two_ne_zero]
  simp [mul_assoc, mul_comm]

theorem lt_finite (a b : Bool) (m n : Nat) (e f : Int) :
    lt (.finite a m e) (.finite b n f) = true ↔ toRat (.finite a m e) < toRat (.finite b n f) := by
  rw [lt, decide_eq_true_iff, toRat_shift a m (Int.min_le_left e f),
    toRat_shift b n (Int.min_le_right e f), mul_lt_mul_iff_of_pos_right (zpow_pos two_pos _),
    Int.cast_lt]

/-- One number is less than another if its value is. -/
theorem lt_iff {x y : Binary64} (hx : x ≠ .nan) (hy : y ≠ .nan) :
    lt x y = true ↔ value x < value y := by
  cases x with
  | nan => exact absurd rfl hx
  | infinite a =>
    cases y with
    | nan => exact absurd rfl hy
    | infinite b => cases a <;> cases b <;> simp [lt, value]
    | finite b n f => cases a <;> simp [lt, value]
  | finite a m e =>
    cases y with
    | nan => exact absurd rfl hy
    | infinite b => cases b <;> simp [lt, value, -WithBot.coe_top]
    | finite b n f =>
      rw [lt_finite, value, value, WithBot.coe_lt_coe, WithTop.coe_lt_coe]

theorem lt_eq_false_iff {x y : Binary64} (hx : x ≠ .nan) (hy : y ≠ .nan) :
    lt x y = false ↔ value y ≤ value x := by
  rw [← not_lt, ← lt_iff hx hy, Bool.not_eq_true]

theorem ne_nan_of_lt {x y : Binary64} (h : lt x y = true) : x ≠ .nan ∧ y ≠ .nan := by
  cases x with
  | nan => cases h
  | infinite | finite => exact ⟨nofun, by rintro rfl; cases h⟩

theorem lt_of_lt_of_lt {x y z : Binary64} (hxy : lt x y = true) (hyz : lt y z = true) :
    lt x z = true := by
  obtain ⟨hx, hy⟩ := ne_nan_of_lt hxy
  have hz := (ne_nan_of_lt hyz).2
  rw [lt_iff hx hz]
  exact ((lt_iff hx hy).mp hxy).trans ((lt_iff hy hz).mp hyz)

theorem lt_of_not_lt {x y z : Binary64} (hy : y ≠ .nan) (hxy : lt x y = false)
    (hxz : lt x z = true) : lt y z = true := by
  obtain ⟨hx, hz⟩ := ne_nan_of_lt hxz
  rw [lt_iff hy hz]
  exact ((lt_eq_false_iff hx hy).mp hxy).trans_lt ((lt_iff hx hz).mp hxz)

theorem lt_of_lt_of_not_lt {x y z : Binary64} (hz : z ≠ .nan) (hxy : lt x y = true)
    (hzy : lt z y = false) : lt x z = true := by
  obtain ⟨hx, hy⟩ := ne_nan_of_lt hxy
  rw [lt_iff hx hz]
  exact ((lt_iff hx hy).mp hxy).trans_le ((lt_eq_false_iff hz hy).mp hzy)

theorem lt_eq_false_of_lt {x y : Binary64} (h : lt x y = true) : lt y x = false := by
  obtain ⟨hx, hy⟩ := ne_nan_of_lt h
  exact (lt_eq_false_iff hy hx).mpr ((lt_iff hx hy).mp h).le

theorem lt_self (x : Binary64) : lt x x = false :=
  Bool.eq_false_iff.mpr fun h => Bool.false_ne_true ((lt_eq_false_of_lt h).symm.trans h)

theorem eq_iff {x y : Binary64} (hx : x ≠ .nan) (hy : y ≠ .nan) :
    eq x y = true ↔ value x = value y := by
  have heq : eq x y = (!lt x y && !lt y x) := by
    unfold eq
    split <;> simp_all
  rw [heq, Bool.and_eq_true, Bool.not_eq_true', Bool.not_eq_true', lt_eq_false_iff hx hy,
    lt_eq_false_iff hy hx, and_comm]
  exact le_antisymm_iff.symm

/-- A number is less than another or equal to it if its value is at most that. -/
theorem lt_or_eq_iff {x y : Binary64} (hx : x ≠ .nan) (hy : y ≠ .nan) :
    (lt x y || eq x y) = true ↔ value x ≤ value y := by
  rw [Bool.or_eq_true, lt_iff hx hy, eq_iff hx hy]
  exact le_iff_lt_or_eq.symm

/-! ## Rounding -/

theorem div_le_roundDiv (num den : Nat) : num / den ≤ roundDiv num den := by
  rw [roundDiv]
  split
  · exact Nat.le_refl _
  · split <;> omega

theorem scaled_spec (num : Nat) {den : Nat} (hden : 0 < den) (e : Int) :
    0 < (scaled num den e).2 ∧
      ((scaled num den e).1 : Rat) / (scaled num den e).2 = num / den / (2 : Rat) ^ e := by
  by_cases he : 0 ≤ e
  · obtain ⟨k, rfl⟩ := Int.eq_ofNat_of_zero_le he
    rw [scaled, if_pos he]
    refine ⟨Nat.mul_pos hden (Nat.pow_pos Nat.two_pos), ?_⟩
    simp [div_div]
  · obtain ⟨k, rfl⟩ : ∃ k : Nat, e = -(k : Int) := ⟨(-e).toNat, by omega⟩
    rw [scaled, if_neg he]
    refine ⟨hden, ?_⟩
    simp [mul_div_right_comm]

/-- The exponent of the rounding of a quotient. -/
def quotientExponent (num den : Nat) : Int :=
  let low : Int := (Nat.log2 num : Int) - (Nat.log2 den : Int) - 53
  max minExponent
    (if Nat.pow 2 53 ≤ (scaled num den low).1 / (scaled num den low).2 then low + 1 else low)

/-- Its mantissa, which may be one too large. -/
def quotientMantissa (num den : Nat) : Nat :=
  let (n, d) := scaled num den (quotientExponent num den)
  roundDiv n d

/-- A mantissa that is one too large is carried into the exponent. -/
def carry (m : Nat) (e : Int) : Nat × Int :=
  if m == Nat.pow 2 53 then (Nat.pow 2 52, e + 1) else (m, e)

theorem carry_of_ne {m : Nat} (h : m ≠ 2 ^ 53) (e : Int) : carry m e = (m, e) :=
  if_neg fun heq => h (beq_iff_eq.mp heq)

theorem carry_two_pow (e : Int) : carry (2 ^ 53) e = (2 ^ 52, e + 1) := rfl

theorem carry_value (m : Nat) (e : Int) :
    ((carry m e).1 : Rat) * 2 ^ (carry m e).2 = m * 2 ^ e := by
  by_cases hm : m = 2 ^ 53
  · rw [hm, carry_two_pow, zpow_add₀ two_ne_zero]
    norm_num
    ring
  · rw [carry_of_ne hm]

theorem ofRatio_eq (negative : Bool) {num : Nat} (hnum : num ≠ 0) (den : Nat) :
    ofRatio negative num den =
      (let rounded := carry (quotientMantissa num den) (quotientExponent num den)
      if maxExponent < rounded.2 then .infinite negative
      else .finite negative rounded.1 rounded.2) := by
  rw [ofRatio, if_neg (by simpa using hnum)]
  rfl

/-- The rounding of a quotient is finite unless it is too large. -/
theorem ofRatio_cases (negative : Bool) {num : Nat} (hnum : num ≠ 0) (den : Nat) :
    ofRatio negative num den = .infinite negative ∨
      ∃ m e, ofRatio negative num den = .finite negative m e ∧
        (m : Rat) * 2 ^ e = quotientMantissa num den * (2 : Rat) ^ quotientExponent num den := by
  rw [ofRatio_eq negative hnum]
  dsimp only
  split
  · exact .inl rfl
  · exact .inr ⟨_, _, rfl, carry_value _ _⟩

/-- Unless its exponent is the least one, the mantissa of a rounding has 53
digits. -/
theorem quotientExponent_spec {num den : Nat} (hnum : num ≠ 0) (hden : 0 < den) :
    quotientExponent num den = minExponent ∨
      (2 : Rat) ^ 52 ≤ num / den / (2 : Rat) ^ quotientExponent num den := by
  have hfew : ∀ low : Int, low = (Nat.log2 num : Int) - Nat.log2 den - 53 →
      (2 : Rat) ^ 52 ≤ num / den / (2 : Rat) ^ low := by
    rintro low rfl
    have hnum' : (2 : Rat) ^ num.log2 ≤ num := by exact_mod_cast Nat.log2_self_le hnum
    have hden' : (den : Rat) ≤ 2 ^ (den.log2 + 1) := by exact_mod_cast Nat.lt_log2_self.le
    rw [le_div_iff₀ (zpow_pos two_pos _), le_div_iff₀ (by exact_mod_cast hden)]
    calc (2 : Rat) ^ 52 * 2 ^ ((num.log2 : Int) - den.log2 - 53) * den
        ≤ 2 ^ 52 * 2 ^ ((num.log2 : Int) - den.log2 - 53) * 2 ^ (den.log2 + 1) :=
          mul_le_mul_of_nonneg_left hden' (mul_pos (by norm_num) (zpow_pos two_pos _)).le
      _ = 2 ^ num.log2 := by
          rw [← zpow_natCast, ← zpow_natCast, ← zpow_natCast, ← zpow_add₀ two_ne_zero,
            ← zpow_add₀ two_ne_zero]
          congr 1
          push_cast
          ring
      _ ≤ num := hnum'
  unfold quotientExponent
  extract_lets low
  split
  · rename_i hmany
    refine (max_choice minExponent (low + 1)).imp id fun he => ?_
    have hfloor : (2 : Rat) ^ 53 ≤ num / den / (2 : Rat) ^ low := by
      rw [← (scaled_spec num hden low).2]
      exact le_trans (by exact_mod_cast hmany) Nat.cast_div_le
    rw [he, zpow_add₀ two_ne_zero, ← div_div, le_div_iff₀ (by norm_num)]
    exact le_trans (by norm_num) hfloor
  · refine (max_choice minExponent low).imp id fun he => ?_
    rw [he]
    exact hfew low rfl

/-- The mantissa of a rounding is at least every integer that the quotient is at
least. -/
theorem le_quotientMantissa {k num den : Nat} (hden : 0 < den)
    (h : (k : Rat) ≤ num / den / (2 : Rat) ^ quotientExponent num den) :
    k ≤ quotientMantissa num den := by
  obtain ⟨hpos, heq⟩ := scaled_spec num hden (quotientExponent num den)
  rw [← heq, le_div_iff₀ (by exact_mod_cast hpos)] at h
  calc k ≤ (scaled num den (quotientExponent num den)).1 /
        (scaled num den (quotientExponent num den)).2 :=
        (Nat.le_div_iff_mul_le hpos).mpr (by exact_mod_cast h)
    _ ≤ quotientMantissa num den := div_le_roundDiv _ _

/-- A number that can be written is at most the rounding of what it is at most. -/
theorem le_value_ofRatio {p num den : Nat} {q : Int} (hp : p ≤ 2 ^ 53) (hq : minExponent ≤ q)
    (hden : 0 < den) (h : toRat (.finite false p q) ≤ num / den) :
    value (.finite false p q) ≤ value (ofRatio false num den) := by
  by_cases hnum : num = 0
  · subst hnum
    have hzero : toRat (.finite false 0 minExponent) = 0 := by simp [toRat_finite, signed]
    rw [Nat.cast_zero, zero_div, ← hzero] at h
    exact WithBot.coe_le_coe.mpr (WithTop.coe_le_coe.mpr h)
  rcases ofRatio_cases false hnum den with he | ⟨m, e, he, hvalue⟩
  · rw [he]
    exact WithBot.coe_le_coe.mpr le_top
  rw [he]
  refine WithBot.coe_le_coe.mpr (WithTop.coe_le_coe.mpr ?_)
  rw [toRat_finite, toRat_finite]
  change (p : Rat) * 2 ^ q ≤ m * 2 ^ e
  rw [toRat_finite] at h
  change (p : Rat) * 2 ^ q ≤ _ at h
  rw [hvalue]
  rcases le_or_gt (quotientExponent num den) q with hle | hlt
  · -- The number is an integer in the units of the rounding.
    obtain ⟨k, rfl⟩ : ∃ k : Nat, q = quotientExponent num den + k :=
      ⟨(q - quotientExponent num den).toNat, by omega⟩
    have hk : p * 2 ^ k ≤ quotientMantissa num den := by
      refine le_quotientMantissa hden ?_
      rw [le_div_iff₀ (zpow_pos two_pos _)]
      refine le_trans (le_of_eq ?_) h
      rw [zpow_add₀ two_ne_zero, zpow_natCast]
      push_cast
      ring
    calc (p : Rat) * 2 ^ (quotientExponent num den + k)
        = ((p * 2 ^ k : Nat) : Rat) * 2 ^ quotientExponent num den := by
          rw [zpow_add₀ two_ne_zero, zpow_natCast]
          push_cast
          ring
      _ ≤ quotientMantissa num den * (2 : Rat) ^ quotientExponent num den :=
          mul_le_mul_of_nonneg_right (by exact_mod_cast hk) (by positivity)
  · -- The rounding has 53 digits and so exceeds all numbers with smaller units.
    have hdigits := (quotientExponent_spec hnum hden).resolve_left (by omega)
    have hk : 2 ^ 52 ≤ quotientMantissa num den :=
      le_quotientMantissa hden (by exact_mod_cast hdigits)
    calc (p : Rat) * 2 ^ q ≤ 2 ^ 53 * 2 ^ q :=
          mul_le_mul_of_nonneg_right (by exact_mod_cast hp) (by positivity)
      _ = 2 ^ 52 * 2 ^ (q + 1) := by
          rw [zpow_add₀ two_ne_zero]
          ring
      _ ≤ 2 ^ 52 * 2 ^ quotientExponent num den :=
          mul_le_mul_of_nonneg_left (zpow_le_zpow_right₀ one_le_two hlt) (by positivity)
      _ ≤ quotientMantissa num den * (2 : Rat) ^ quotientExponent num den :=
          mul_le_mul_of_nonneg_right (by exact_mod_cast hk) (by positivity)

/-- An integer times a power of two is a quotient. -/
theorem exists_ofRatio (negative : Bool) (m : Nat) (e : Int) :
    ∃ num den, 0 < den ∧ ofDyadic negative m e = ofRatio negative num den ∧
      (num : Rat) / den = m * 2 ^ e := by
  rw [ofDyadic]
  split
  · rename_i he
    obtain ⟨k, rfl⟩ := Int.eq_ofNat_of_zero_le he
    exact ⟨_, 1, Nat.one_pos, rfl, by simp⟩
  · rename_i he
    obtain ⟨k, rfl⟩ : ∃ k : Nat, e = -(k : Int) := ⟨(-e).toNat, by omega⟩
    exact ⟨m, _, Nat.pow_pos Nat.two_pos, rfl, by simp [div_eq_mul_inv]⟩

/-- The same for the rounding of an integer times a power of two. -/
theorem le_value_ofDyadic {p m : Nat} {q e : Int} (hp : p ≤ 2 ^ 53) (hq : minExponent ≤ q)
    (h : toRat (.finite false p q) ≤ toRat (.finite false m e)) :
    value (.finite false p q) ≤ value (ofDyadic false m e) := by
  obtain ⟨num, den, hden, heq, hratio⟩ := exists_ofRatio false m e
  rw [heq]
  refine le_value_ofRatio hp hq hden (h.trans_eq ?_)
  rw [hratio, toRat_finite]
  rfl

/-! ## Sums -/

/-- A number that is not negative. -/
def Nonneg (x : Binary64) : Prop := value (zero false) ≤ value x

theorem nonneg_finite {a : Bool} {m : Nat} {e : Int} :
    Nonneg (.finite a m e) ↔ 0 ≤ toRat (.finite a m e) := by
  have hzero : toRat (.finite false 0 minExponent) = 0 := by simp [toRat_finite, signed]
  rw [Nonneg, zero, value, value, hzero, WithBot.coe_le_coe, WithTop.coe_le_coe]

theorem Nonneg.ne_nan {x : Binary64} (h : Nonneg x) : x ≠ .nan := by
  rintro rfl
  exact absurd h (by simp [Nonneg, zero, value])

/-- A number that is not negative is infinite or has a value. -/
theorem Nonneg.cases {x : Binary64} (h : Nonneg x) :
    x = .infinite false ∨ ∃ a m e, x = .finite a m e ∧ 0 ≤ toRat x := by
  cases x with
  | nan => exact absurd rfl h.ne_nan
  | infinite a =>
    cases a with
    | true => exact absurd h (by simp [Nonneg, zero, value])
    | false => exact .inl rfl
  | finite a m e => exact .inr ⟨a, m, e, rfl, nonneg_finite.mp h⟩

/-- The sum of finite numbers in units of the smaller exponent. -/
def unitSum (a b : Bool) (m n : Nat) (e f : Int) : Int :=
  signed a (m * Nat.pow 2 (e - Min.min e f).toNat) +
    signed b (n * Nat.pow 2 (f - Min.min e f).toNat)

theorem unitSum_spec (a b : Bool) (m n : Nat) (e f : Int) :
    toRat (.finite a m e) + toRat (.finite b n f) =
      unitSum a b m n e f * (2 : Rat) ^ Min.min e f := by
  rw [toRat_shift a m (Int.min_le_left e f), toRat_shift b n (Int.min_le_right e f), ← add_mul,
    ← Int.cast_add]
  rfl

theorem finite_add (a b : Bool) (m n : Nat) (e f : Int) :
    Binary64.finite a m e + .finite b n f =
      if unitSum a b m n e f == 0 then zero (a && b)
      else ofDyadic (unitSum a b m n e f < 0) (unitSum a b m n e f).natAbs (Min.min e f) := rfl

/-- A sum of numbers that are not negative is at least what one of them is at
least, if that can be written. -/
theorem le_value_add {p : Nat} {q : Int} (hp : p ≤ 2 ^ 53) (hq : minExponent ≤ q) {x y : Binary64}
    (hx : Nonneg x) (hy : Nonneg y)
    (h : value (.finite false p q) ≤ value x ∨ value (.finite false p q) ≤ value y) :
    value (.finite false p q) ≤ value (x + y) := by
  have htop : value (.finite false p q) ≤ value (.infinite false) := WithBot.coe_le_coe.mpr le_top
  rcases hx.cases with rfl | ⟨a, m, e, rfl, hx⟩
  · rcases hy.cases with rfl | ⟨b, n, f, rfl, -⟩ <;> exact htop
  rcases hy.cases with rfl | ⟨b, n, f, rfl, hy⟩
  · exact htop
  have hle : toRat (.finite false p q) ≤ toRat (.finite a m e) + toRat (.finite b n f) := by
    rcases h with h | h
    · exact le_add_of_le_of_nonneg (WithTop.coe_le_coe.mp (WithBot.coe_le_coe.mp h)) hy
    · exact le_add_of_nonneg_of_le hx (WithTop.coe_le_coe.mp (WithBot.coe_le_coe.mp h))
  have hsum := add_nonneg hx hy
  rw [unitSum_spec] at hle hsum
  have hpos : 0 ≤ unitSum a b m n e f := by
    exact_mod_cast nonneg_of_mul_nonneg_left hsum (zpow_pos two_pos _)
  rw [finite_add]
  obtain ⟨k, hk⟩ := Int.eq_ofNat_of_zero_le hpos
  rw [hk] at hle ⊢
  cases k with
  | zero =>
    -- A sum that is zero is at least what is at most zero.
    refine WithBot.coe_le_coe.mpr (WithTop.coe_le_coe.mpr (hle.trans_eq ?_))
    simp [toRat_finite, signed]
  | succ k =>
    refine le_value_ofDyadic hp hq (hle.trans_eq ?_)
    rw [toRat_finite]
    rfl

end Binary64

end RouteDoc.Number
