import RouteDoc.Text.Blank

/-!
# ASCII letters and digits

* `toNat_ofNat_or`: characters by their numbers;
* `isAlphanum_iff`: letters and digits by their numbers;
* `isSpace_of_isAlphanum`, `isAlphanum_toUpper`: none of them is white space, and
  they stay among themselves in upper case;
* `isDigit_of_mem_toString`, `toString_int_inj`: numbers in decimal.
-/

namespace RouteDoc.Text

/-- What holds of all characters of a text is decided along the text, even where the
characters themselves could be gone through. -/
instance (priority := high) decidableForallMem (cs : List Char) (P : Char → Prop)
    [DecidablePred P] : Decidable (∀ c ∈ cs, P c) := List.decidableBAll P cs

/-- A number that is no code point is read as zero. -/
theorem toNat_ofNat_or (n : Nat) : (Char.ofNat n).toNat = n ∨ Char.ofNat n = '\x00' := by
  by_cases hvalid : n.isValidChar
  · rw [Char.ofNat, dif_pos hvalid]
    exact .inl rfl
  · rw [Char.ofNat, dif_neg hvalid]
    exact .inr rfl

theorem isAlphanum_iff {c : Char} : c.isAlphanum = true ↔
    (65 ≤ c.toNat ∧ c.toNat ≤ 90) ∨ (97 ≤ c.toNat ∧ c.toNat ≤ 122) ∨
      (48 ≤ c.toNat ∧ c.toNat ≤ 57) := by
  change (decide ('A'.val ≤ c.val ∧ c.val ≤ 'Z'.val) ||
    (decide ('a'.val ≤ c.val) && decide (c.val ≤ 'z'.val)) ||
    (decide ('0'.val ≤ c.val) && decide (c.val ≤ '9'.val))) = true ↔ _
  simp only [Bool.or_eq_true, Bool.and_eq_true, decide_eq_true_eq, UInt32.le_iff_toNat_le,
    or_assoc]
  rfl

theorem isSpace_of_isAlphanum {c : Char} (h : c.isAlphanum = true) : isSpace c = false := by
  have hc := isAlphanum_iff.mp h
  simp only [isSpace, Bool.or_eq_false_iff, Bool.and_eq_false_iff, decide_eq_false_iff_not,
    beq_eq_false_iff_ne]
  omega

theorem isAlphanum_toUpper {c : Char} (h : c.isAlphanum = true) : c.toUpper.isAlphanum = true := by
  unfold Char.toUpper
  split
  · rename_i hlower
    simp only [UInt32.le_iff_toNat_le] at hlower
    change 97 ≤ c.toNat ∧ c.toNat ≤ 122 at hlower
    have hupper : (c.val + ('A'.val - 'a'.val)).toNat = c.toNat - 32 := by
      have hmod : (c.val + ('A'.val - 'a'.val)).toNat = (c.toNat + 4294967264) % 4294967296 :=
        UInt32.toNat_add _ _
      omega
    rw [isAlphanum_iff, Char.toNat, hupper]
    omega
  · exact h

/-! ## Numbers in decimal -/

theorem isDigit_of_mem_toString {n : Nat} {c : Char} (h : c ∈ (toString n).toList) :
    c.isDigit = true := by
  rw [Nat.toString_eq_repr, Nat.toList_repr] at h
  exact Nat.isDigit_of_mem_toDigits (by decide) (by decide) h

theorem toString_nat_inj {m n : Nat} (h : toString m = toString n) : m = n := by
  rw [Nat.toString_eq_repr, Nat.toString_eq_repr, ← String.toList_inj, Nat.toList_repr,
    Nat.toList_repr] at h
  rw [← @Nat.ofDigitChars_ten_toDigits m, h, Nat.ofDigitChars_ten_toDigits]

theorem toString_int_inj {m n : Int} (h : toString m = toString n) : m = n := by
  have hsign : ∀ a b : Nat, toString a ≠ "-" ++ toString b := by
    intro a b hab
    have hminus : '-' ∈ (toString a).toList := by
      rw [hab, String.toList_append]
      exact List.mem_cons_self
    exact absurd (isDigit_of_mem_toString hminus) (by decide)
  -- A natural number is written as it is, a negative one after a sign.
  cases m with
  | ofNat m =>
    cases n with
    | ofNat n => exact congrArg Int.ofNat (toString_nat_inj h)
    | negSucc n => exact absurd h (hsign m (n + 1))
  | negSucc m =>
    cases n with
    | ofNat n => exact absurd h.symm (hsign n (m + 1))
    | negSucc n =>
      have hdigits : "-" ++ toString (m + 1) = "-" ++ toString (n + 1) := h
      rw [String.append_right_inj] at hdigits
      exact congrArg Int.negSucc (Nat.succ.inj (toString_nat_inj hdigits))

end RouteDoc.Text
