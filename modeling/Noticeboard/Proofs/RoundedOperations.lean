import Noticeboard.Proofs.NearestDoubles

/-!
# Rounded operations

The product, the sum and the quotient of two doubles from zero on are rounded from those of their
numbers: the operations are exact until they round.
-/

namespace Noticeboard.Doubles

open Float.Model Float.Model.UnpackedFloat

variable {x y : UnpackedFloat} {v w : ℚ} {m n : Nat} {e k : Int}

/-! ## Products -/

theorem Canonical.product_bits (h : Canonical m e) (h' : Canonical n k) (hm : 0 < m)
    (hn : 0 < n) : 2 ^ 52 ≤ m * n ∨ e + k ≤ -1074 := by
  rcases h.full with hfull | rfl
  · exact .inl (hfull.trans (Nat.le_mul_of_pos_right m hn))
  · rcases h'.full with hfull | rfl
    · exact .inl (hfull.trans (Nat.le_mul_of_pos_left n hm))
    · exact .inr (by decide)

theorem value_mul (m n : Nat) (e k : Int) :
    value m e * value n k = ((m * n : ℕ) : ℚ) * 2 ^ (e + k) := by
  unfold value
  rw [zpow_add₀ two_ne_zero]
  push_cast
  ring

theorem rounded_mul (hx : HasValue x v) (hy : HasValue y w) :
    Rounded (UnpackedFloat.mul Format.binary64 x y) (v * w) := by
  cases hx with
  | zero =>
      rw [zero_mul]
      cases hy with
      | zero => exact HasValue.zero.rounded
      | finite _ => exact HasValue.zero.rounded
  | @finite m e hm h =>
      cases hy with
      | zero =>
          rw [mul_zero]
          exact HasValue.zero.rounded
      | @finite n k hn h' =>
          rw [value_mul]
          exact rounded_roundWithAccuracy (standsFor_exact (m * n)) (h.product_bits h' hm hn)

/-! ## Sums -/

/-- Filled up with zeros, a mantissa has enough bits to be rounded. -/
theorem rounded_round (hsome : m ≠ 0) (e : Int) :
    Rounded (UnpackedFloat.round Format.binary64 .positive m e) (value m e) := by
  unfold UnpackedFloat.round decreaseExponent
  dsimp only
  rw [targetExponent_total]
  generalize hs : (e - max (e + m.log2 - 52) (-1074)).toNat = s
  have hvalue : value m e = ((m <<< s : ℕ) : ℚ) * 2 ^ (e - s) := by
    rw [value, Nat.shiftLeft_eq, zpow_sub₀ two_ne_zero, zpow_natCast]
    push_cast
    field_simp
  rw [hvalue]
  refine rounded_roundWithAccuracy (standsFor_exact _) ?_
  by_cases hleast : e - s ≤ -1074
  · exact .inr hleast
  · have hfilled : 52 ≤ (m <<< s).log2 := by
      rw [log2_shiftLeft hsome]
      omega
    exact .inl ((Nat.le_log2 (by simpa using hsome)).mp hfilled)

theorem normalize_natCast (hsome : m ≠ 0) (e : Int) :
    UnpackedFloat.normalize Format.binary64 m e .positive =
      UnpackedFloat.round Format.binary64 .positive m e := by
  have hpositive : Ord.compare (m : Int) 0 = .gt := Int.compare_eq_gt.mpr (by omega)
  unfold UnpackedFloat.normalize
  rw [hpositive]
  rfl

/-- Both mantissas are brought to the smaller exponent and added there. -/
theorem add_finite (hm : 0 < m) (hn : 0 < n) (e k : Int) :
    ∃ i j : Nat, min e k + i = e ∧ min e k + j = k ∧ m <<< i + n <<< j ≠ 0 ∧
      UnpackedFloat.add Format.binary64 (.finite .positive m e hm) (.finite .positive n k hn) =
        UnpackedFloat.round Format.binary64 .positive (m <<< i + n <<< j) (min e k) := by
  refine ⟨(e - min e k).toNat, (k - min e k).toNat, by omega, by omega, ?_, ?_⟩
  · simp [hm.ne']
  · rw [← normalize_natCast (by simp [hm.ne'])]
    rfl

theorem rounded_add (hx : HasValue x v) (hy : HasValue y w) :
    Rounded (UnpackedFloat.add Format.binary64 x y) (v + w) := by
  cases hx with
  | zero =>
      rw [zero_add]
      cases hy with
      | zero => exact HasValue.zero.rounded
      | finite h' => exact (HasValue.finite h').rounded
  | @finite m e hm h =>
      cases hy with
      | zero =>
          rw [add_zero]
          exact (HasValue.finite h).rounded
      | @finite n k hn h' =>
          obtain ⟨i, j, hi, hj, hsome, hsum⟩ := add_finite hm hn e k
          have hleft : value m e = m * 2 ^ i * 2 ^ min e k := by rw [← value_shift, hi]
          have hright : value n k = n * 2 ^ j * 2 ^ min e k := by rw [← value_shift, hj]
          have hvalue : value m e + value n k = value (m <<< i + n <<< j) (min e k) := by
            rw [hleft, hright, value, Nat.shiftLeft_eq, Nat.shiftLeft_eq]
            push_cast
            ring
          rw [hsum, hvalue]
          exact rounded_round hsome _

/-! ## Quotients -/

theorem standsFor_inexact (m : Nat) {f : ℚ} (hpos : 0 < f) (hlt : f < 1) {side : Ordering}
    (hside : match side with | .lt => f < 1 / 2 | .eq => f = 1 / 2 | .gt => 1 / 2 < f) :
    StandsFor (ExtendedMantissa.ofMantissaAndAccuracy m (.inexact side)) (m + f) := by
  cases side <;> dsimp only at hside <;> constructor <;>
    simp only [halves, ExtendedMantissa.ofMantissaAndAccuracy, Bool.false_eq_true, if_false,
      if_true, false_iff, true_iff] <;> linarith

/-- The remainder tells what is behind a quotient. -/
theorem standsFor_quotient (m : Nat) (hn : 0 < n) :
    StandsFor (ExtendedMantissa.ofMantissaAndAccuracy (m / n) (accuracyOfFraction (m % n) n))
      (m / n) := by
  have hpos : (0 : ℚ) < n := Nat.cast_pos.mpr hn
  have hrest : ((m % n : ℕ) : ℚ) < n := by exact_mod_cast Nat.mod_lt m hn
  have hdivision : (m : ℚ) / n = (m / n : ℕ) + (m % n : ℕ) / n := by
    have hparts : (m : ℚ) = n * (m / n : ℕ) + (m % n : ℕ) := by
      exact_mod_cast (Nat.div_add_mod m n).symm
    rw [div_eq_iff hpos.ne', add_mul, div_mul_cancel₀ _ hpos.ne', mul_comm]
    exact hparts
  rw [hdivision]
  unfold accuracyOfFraction
  split
  next hnone =>
    rw [hnone, Nat.cast_zero, zero_div, add_zero]
    exact standsFor_exact _
  next hmore =>
    have hpositive : (0 : ℚ) < (m % n : ℕ) := Nat.cast_pos.mpr (Nat.pos_of_ne_zero hmore)
    refine standsFor_inexact _ (div_pos hpositive hpos) ((div_lt_one hpos).mpr hrest) ?_
    rcases hcompare : Ord.compare (2 * (m % n)) n with _ | _ | _ <;> dsimp only
    · have hless : 2 * ((m % n : ℕ) : ℚ) < n := by exact_mod_cast Nat.compare_eq_lt.mp hcompare
      rw [div_lt_div_iff₀ hpos two_pos]
      linarith
    · have hsame : 2 * ((m % n : ℕ) : ℚ) = n := by exact_mod_cast Nat.compare_eq_eq.mp hcompare
      rw [div_eq_div_iff hpos.ne' two_ne_zero]
      linarith
    · have hmost : (n : ℚ) < 2 * ((m % n : ℕ) : ℚ) := by
        exact_mod_cast Nat.compare_eq_gt.mp hcompare
      rw [div_lt_div_iff₀ two_pos hpos]
      linarith

/-- The dividend is filled up until the quotient has enough bits. -/
theorem quotient_bits {t : Int} {s : Nat} (hm : 0 < m) (hn : 0 < n)
    (ht : t = min (e - k) (max (totalExponent m e - totalExponent n k - 53) (-1074)))
    (hs : (e - k - t).toNat = s) : 2 ^ 52 ≤ (m <<< s) / n ∨ t ≤ -1074 := by
  by_cases hleast : t ≤ -1074
  · exact .inr hleast
  · unfold totalExponent at ht
    have hshift : n.log2 + 53 ≤ m.log2 + s := by omega
    have hdividend : 2 ^ (m.log2 + s) ≤ m <<< s := by
      rw [Nat.shiftLeft_eq, Nat.pow_add]
      exact Nat.mul_le_mul_right _ (Nat.log2_self_le hm.ne')
    have hdivisor : n < 2 ^ (n.log2 + 1) := Nat.lt_log2_self
    rw [Nat.le_div_iff_mul_le hn]
    left
    calc 2 ^ 52 * n ≤ 2 ^ 52 * 2 ^ (n.log2 + 1) := Nat.mul_le_mul_left _ hdivisor.le
      _ = 2 ^ (n.log2 + 53) := by rw [← Nat.pow_add]; congr 1; omega
      _ ≤ 2 ^ (m.log2 + s) := Nat.pow_le_pow_right two_pos hshift
      _ ≤ m <<< s := hdividend

theorem rounded_div (hx : HasValue x v) (hy : HasValue y w) (hw : 0 < w) :
    Rounded (UnpackedFloat.div Format.binary64 x y) (v / w) := by
  cases hy with
  | zero => exact absurd hw (lt_irrefl 0)
  | @finite n k hn h' =>
      cases hx with
      | zero =>
          rw [zero_div]
          exact HasValue.zero.rounded
      | @finite m e hm h =>
          obtain ⟨t, ht⟩ : ∃ t, t = min (e - k)
              (max (totalExponent m e - totalExponent n k - 53) (-1074)) := ⟨_, rfl⟩
          obtain ⟨s, hs⟩ : ∃ s, (e - k - t).toNat = s := ⟨_, rfl⟩
          have hquotient : UnpackedFloat.div Format.binary64 (.finite .positive m e hm)
              (.finite .positive n k hn) =
              roundWithAccuracy Format.binary64 .positive ((m <<< s) / n) t
                (accuracyOfFraction ((m <<< s) % n) n) := by
            rw [← hs, ht]
            rfl
          have hvalue : value m e / value n k = ((m <<< s : ℕ) : ℚ) / n * 2 ^ t := by
            have hexponent : e = t + s + k := by omega
            unfold value
            rw [hexponent, zpow_add₀ two_ne_zero, zpow_add₀ two_ne_zero, zpow_natCast,
              Nat.shiftLeft_eq]
            push_cast
            field_simp
          rw [hquotient, hvalue]
          exact rounded_roundWithAccuracy (standsFor_quotient _ hn) (quotient_bits hm hn ht hs)

theorem div_zero_left (hy : HasValue y w) (hw : 0 < w) :
    UnpackedFloat.div Format.binary64 (.zero .positive) y = .zero .positive := by
  cases hy with
  | zero => exact absurd hw (lt_irrefl 0)
  | finite _ => rfl

end Noticeboard.Doubles
