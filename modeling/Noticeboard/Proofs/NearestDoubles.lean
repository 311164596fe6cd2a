import Mathlib
import Noticeboard.Proofs.Doubles

/-!
# Nearest doubles

Rounding takes a number to a double, of unbounded exponent, that is as near to it as any.  Of two
numbers the smaller is therefore never taken to a larger double than the other.
-/

namespace Noticeboard.Doubles

open Float.Model Float.Model.UnpackedFloat

/-! ## Bits behind a mantissa -/

section Bits

/-- A mantissa with the bit behind it. -/
def halves (em : ExtendedMantissa) : ℚ :=
  em.mantissa + if em.roundBit then 1 / 2 else 0

/-- The mantissa and the bit behind it are those of a number, and the last bit tells whether there
is anything more. -/
structure StandsFor (em : ExtendedMantissa) (x : ℚ) : Prop where
  le : halves em ≤ x
  lt : x < halves em + 1 / 2
  more : em.stickyBit = true ↔ halves em < x

variable {em : ExtendedMantissa} {x : ℚ} {m : Nat}

theorem standsFor_exact (m : Nat) :
    StandsFor (ExtendedMantissa.ofMantissaAndAccuracy m .exact) m := by
  constructor <;> simp [halves, ExtendedMantissa.ofMantissaAndAccuracy]

theorem halves_cases (em : ExtendedMantissa) :
    em.roundBit = true ∧ halves em = em.mantissa + 1 / 2 ∨
      em.roundBit = false ∧ halves em = em.mantissa := by
  cases hbit : em.roundBit <;> simp [halves, hbit]

theorem halves_shiftRightOne (em : ExtendedMantissa) :
    halves em.shiftRightOne = em.mantissa / 2 := by
  have hbits : (em.mantissa : ℚ) = 2 * (em.mantissa / 2 : ℕ) + (em.mantissa % 2 : ℕ) := by
    exact_mod_cast (Nat.div_add_mod em.mantissa 2).symm
  rw [hbits]
  rcases Nat.mod_two_eq_zero_or_one em.mantissa with hlast | hlast
  · simp [halves, ExtendedMantissa.shiftRightOne, hlast]
  · simp only [halves, ExtendedMantissa.shiftRightOne, hlast]
    norm_num
    linarith

theorem StandsFor.shiftRightOne (h : StandsFor em x) : StandsFor em.shiftRightOne (x / 2) := by
  obtain ⟨hle, hlt, hmore⟩ := h
  have hsticky : em.shiftRightOne.stickyBit = true ↔ em.roundBit = true ∨ em.stickyBit = true :=
    Bool.or_eq_true_iff
  constructor <;> rw [halves_shiftRightOne]
  case le => rcases halves_cases em with ⟨-, hhalves⟩ | ⟨-, hhalves⟩ <;> linarith
  case lt => rcases halves_cases em with ⟨-, hhalves⟩ | ⟨-, hhalves⟩ <;> linarith
  case more =>
    rw [hsticky, hmore, div_lt_div_iff_of_pos_right two_pos]
    rcases halves_cases em with ⟨hbit, hhalves⟩ | ⟨hbit, hhalves⟩
    · exact iff_of_true (.inl hbit) (by linarith)
    · simp [hbit, hhalves]

theorem StandsFor.shiftRight (h : StandsFor em x) (k : Nat) : StandsFor (em >>> k) (x / 2 ^ k) := by
  induction k with
  | zero => rwa [pow_zero, div_one]
  | succ k ih =>
      rw [pow_succ, ← div_div]
      exact ih.shiftRightOne

theorem StandsFor.mantissa_le (h : StandsFor em x) : em.mantissa ≤ x := by
  have hle := h.le
  rcases halves_cases em with ⟨-, hhalves⟩ | ⟨-, hhalves⟩ <;> linarith

/-- The rounded mantissa is not more than a half away. -/
theorem StandsFor.half_away (h : StandsFor em x) : |(em.roundedMantissa : ℚ) - x| ≤ 1 / 2 := by
  obtain ⟨hle, hlt, hmore⟩ := h
  obtain ⟨m, round, sticky⟩ := em
  rw [abs_le]
  cases round <;>
    simp only [halves, Bool.false_eq_true, if_false, if_true] at hle hlt hmore
  · have hrounded : (⟨m, false, sticky⟩ : ExtendedMantissa).roundedMantissa = m := by
      cases sticky <;> rfl
    rw [hrounded]
    constructor <;> linarith
  · cases sticky with
    | false =>
        -- a tie, of which either side is a half away
        have hx : x = m + 1 / 2 := le_antisymm (by simpa using hmore) hle
        have hlast : ((m % 2 : ℕ) : ℚ) ≤ 1 := by
          exact_mod_cast Nat.le_of_lt_succ (Nat.mod_lt m two_pos)
        have hrounded : ((⟨m, true, false⟩ : ExtendedMantissa).roundedMantissa : ℚ) =
            m + (m % 2 : ℕ) := by exact_mod_cast rfl
        rw [hrounded, hx]
        constructor <;> linarith [Nat.cast_nonneg (α := ℚ) (m % 2)]
    | true =>
        have hrounded : ((⟨m, true, true⟩ : ExtendedMantissa).roundedMantissa : ℚ) = m + 1 := by
          exact_mod_cast rfl
        rw [hrounded]
        constructor <;> linarith

/-- No whole number is nearer than the rounded mantissa. -/
theorem StandsFor.nearest (h : StandsFor em x) (n : Nat) :
    |(em.roundedMantissa : ℚ) - x| ≤ |(n : ℚ) - x| := by
  have hhalf := h.half_away
  rcases eq_or_ne em.roundedMantissa n with heq | hne
  · rw [heq]
  · have hapart : (1 : ℚ) ≤ |(em.roundedMantissa : ℚ) - n| := by
      have hint : 1 ≤ |(em.roundedMantissa : ℤ) - n| := Int.one_le_abs (by omega)
      exact_mod_cast hint
    have htriangle := abs_sub_le (em.roundedMantissa : ℚ) x n
    rw [abs_sub_comm x] at htriangle
    linarith

end Bits

/-! ## Doubles of unbounded exponent -/

/-- A mantissa and an exponent as a double has them, unless the exponent is too large: the first of
the 53 bits is set, but for the smallest exponent. -/
structure Canonical (m : Nat) (e : Int) : Prop where
  least : -1074 ≤ e
  small : m < 2 ^ 53
  full : 2 ^ 52 ≤ m ∨ e = -1074

/-- The number of a mantissa and an exponent. -/
def value (m : Nat) (e : Int) : ℚ :=
  m * 2 ^ e

/-- The double from zero on has this number. -/
inductive HasValue : UnpackedFloat → ℚ → Prop where
  | zero : HasValue (.zero .positive) 0
  | finite {m : Nat} {e : Int} {hpos : 0 < m} (h : Canonical m e) :
      HasValue (.finite .positive m e hpos) (value m e)

/-- The number of a double to which no double is nearer. -/
structure Nearest (w v : ℚ) : Prop where
  isDouble : ∃ m e, Canonical m e ∧ w = value m e
  le : ∀ m e, Canonical m e → |w - v| ≤ |value m e - v|

/-- The double is rounded from the number. -/
def Rounded (x : UnpackedFloat) (v : ℚ) : Prop :=
  ∃ w, HasValue x w ∧ Nearest w v

variable {em : ExtendedMantissa} {x : UnpackedFloat} {y v w v' w' : ℚ} {m n : Nat} {e k : Int}

theorem canonical_zero : Canonical 0 (-1074) :=
  ⟨le_rfl, by decide, .inr rfl⟩

theorem value_zero (e : Int) : value 0 e = 0 := by
  rw [value, Nat.cast_zero, zero_mul]

theorem value_pos (hpos : 0 < m) (e : Int) : 0 < value m e :=
  mul_pos (Nat.cast_pos.mpr hpos) (zpow_pos two_pos e)

theorem value_shift (m : Nat) (e : Int) (k : Nat) : value m (e + k) = (m * 2 ^ k) * 2 ^ e := by
  rw [value, zpow_add₀ two_ne_zero, zpow_natCast]
  ring

theorem HasValue.isDouble (h : HasValue x v) : ∃ m e, Canonical m e ∧ v = value m e := by
  cases h with
  | zero => exact ⟨0, -1074, canonical_zero, (value_zero _).symm⟩
  | finite h => exact ⟨_, _, h, rfl⟩

theorem HasValue.nonneg (h : HasValue x v) : 0 ≤ v := by
  cases h with
  | zero => exact le_rfl
  | @finite m e hpos _ => exact (value_pos hpos e).le

theorem hasValue_dite (h : Canonical m e) :
    HasValue (if hzero : m = 0 then .zero .positive
      else .finite .positive m e (Nat.pos_of_ne_zero hzero)) (value m e) := by
  split
  next hzero =>
    rw [hzero, value_zero]
    exact .zero
  next => exact .finite h

/-! ## Nearest doubles -/

/-- A double is nearest to its own number. -/
theorem HasValue.nearest (h : HasValue x v) : Nearest v v :=
  ⟨h.isDouble, fun m e _ => by rw [sub_self, abs_zero]; exact abs_nonneg _⟩

theorem HasValue.rounded (h : HasValue x v) : Rounded x v :=
  ⟨v, h, h.nearest⟩

theorem Nearest.eq_of_hasValue (h : Nearest w v) (hx : HasValue x v) : w = v := by
  obtain ⟨m, e, hcanonical, hvalue⟩ := hx.isDouble
  have hown := h.le m e hcanonical
  rw [← hvalue, sub_self, abs_zero] at hown
  exact sub_eq_zero.mp (abs_nonpos_iff.mp hown)

/-- Of two numbers the smaller has no larger double. -/
theorem Nearest.mono (h : Nearest w v) (h' : Nearest w' v') (hlt : v < v') : w ≤ w' := by
  obtain ⟨m, e, hcanonical, hvalue⟩ := h.isDouble
  obtain ⟨n, k, hcanonical', hvalue'⟩ := h'.isDouble
  have hfirst := h.le n k hcanonical'
  have hsecond := h'.le m e hcanonical
  rw [← hvalue', ← sq_le_sq] at hfirst
  rw [← hvalue, ← sq_le_sq] at hsecond
  by_contra hgt
  -- each number is on the side of its own double from the middle of both
  have hmiddle : w + w' ≤ 2 * v := by nlinarith
  have hmiddle' : 2 * v' ≤ w + w' := by nlinarith
  linarith

theorem Canonical.value_lt (h : Canonical m e) (hlt : e < k) : value m e < 2 ^ 52 * 2 ^ k := by
  have hsmall : (m : ℚ) < 2 ^ 53 := by exact_mod_cast h.small
  have hpos : (0 : ℚ) < 2 ^ e := zpow_pos two_pos e
  calc value m e < 2 ^ 53 * 2 ^ e := mul_lt_mul_of_pos_right hsmall hpos
    _ = 2 ^ 52 * 2 ^ (e + 1) := by rw [zpow_add_one₀ two_ne_zero]; ring
    _ ≤ 2 ^ 52 * 2 ^ k := by
      have hpow : (2 : ℚ) ^ (e + 1) ≤ 2 ^ k := zpow_le_zpow_right₀ one_le_two hlt
      linarith

theorem Canonical.le_value (h : Canonical m e) (hlt : -1074 < e) : 2 ^ 52 * 2 ^ e ≤ value m e := by
  have hfull : 2 ^ 52 ≤ m := h.full.resolve_right (by omega)
  have hfull : (2 : ℚ) ^ 52 ≤ m := by exact_mod_cast hfull
  exact mul_le_mul_of_nonneg_right hfull (zpow_pos two_pos e).le

/-- A number rounded on the grid of its own exponent is rounded among all doubles. -/
theorem nearest_of_grid (hgrid : ∀ n : Nat, |(m : ℚ) - y| ≤ |(n : ℚ) - y|)
    (hfull : 2 ^ 52 ≤ y ∨ e = -1074) (h : Canonical n k) :
    |value m e - y * 2 ^ e| ≤ |value n k - y * 2 ^ e| := by
  have hpos : (0 : ℚ) < 2 ^ e := zpow_pos two_pos e
  have hscaled (z : ℚ) : |z * 2 ^ e - y * 2 ^ e| = |z - y| * 2 ^ e := by
    rw [← sub_mul, abs_mul, abs_of_pos hpos]
  rw [value, hscaled]
  rcases le_or_gt e k with hfine | hcoarse
  · obtain ⟨j, rfl⟩ := Int.le.dest hfine
    rw [value_shift, hscaled]
    have hmultiple := hgrid (n * 2 ^ j)
    push_cast at hmultiple
    exact mul_le_mul_of_nonneg_right hmultiple hpos.le
  · -- below the exponent, the first number of the grid's own binade is nearer
    have hleast := h.least
    have hbinade : 2 ^ 52 ≤ y := hfull.resolve_right (by omega)
    have hfirst := hgrid (2 ^ 52)
    rw [Nat.cast_pow, Nat.cast_ofNat, abs_of_nonpos (show (2 : ℚ) ^ 52 - y ≤ 0 by linarith)]
      at hfirst
    have hbelow := h.value_lt hcoarse
    calc |(m : ℚ) - y| * 2 ^ e ≤ -(2 ^ 52 - y) * 2 ^ e := mul_le_mul_of_nonneg_right hfirst hpos.le
      _ ≤ -(value n k - y * 2 ^ e) := by linarith
      _ ≤ |value n k - y * 2 ^ e| := neg_le_abs _

/-! ## Rounding -/

/-- A mantissa and an exponent that are a double's stay as they are. -/
theorem shift_canonical (h : Canonical m e) :
    shiftToTargetExponent Format.binary64 m e .exact = (⟨m, false, false⟩, e) := by
  have hlog : m.log2 ≤ 52 := by
    have hsmall := h.small
    rcases Nat.eq_zero_or_pos m with rfl | hpos
    · decide
    · exact Nat.le_of_lt_succ ((Nat.log2_lt hpos.ne').mpr hsmall)
  have hleast := h.least
  have hshift : (max (e + m.log2 - 52) (-1074) - e).toNat = 0 := by omega
  unfold shiftToTargetExponent shiftToExponent
  dsimp only
  rw [targetExponent_total, hshift]
  exact Prod.ext rfl (by simp)

/-- One bit too many is shifted out, and it is zero. -/
theorem shift_carried (hleast : -1074 ≤ e) :
    shiftToTargetExponent Format.binary64 (2 ^ 53) e .exact = (⟨2 ^ 52, false, false⟩, e + 1) := by
  have hlog : (2 ^ 53 : ℕ).log2 = 53 := Nat.log2_two_pow
  have hshift : (max (e + (53 : ℕ) - 52) (-1074) - e).toNat = 1 := by omega
  unfold shiftToTargetExponent shiftToExponent
  dsimp only
  rw [targetExponent_total, hlog, hshift]
  rfl

theorem canonical_carried (hleast : -1074 ≤ e) : Canonical (2 ^ 52) (e + 1) :=
  ⟨by omega, by decide, .inl le_rfl⟩

/-- What is left to do with a rounded mantissa does not change its number. -/
theorem hasValue_roundWithAccuracy {accuracy : Accuracy}
    (hshift : shiftToTargetExponent Format.binary64 m e accuracy = (em, k))
    (hrounded : Canonical em.roundedMantissa k ∨ em.roundedMantissa = 2 ^ 53 ∧ -1074 ≤ k) :
    HasValue (roundWithAccuracy Format.binary64 .positive m e accuracy)
      (value em.roundedMantissa k) := by
  unfold roundWithAccuracy
  rw [hshift]
  dsimp only
  rcases hrounded with hcanonical | ⟨hcarried, hleast⟩
  · rw [shift_canonical hcanonical]
    exact hasValue_dite hcanonical
  · have hvalue : value (2 ^ 53) k = value (2 ^ 52) (k + 1) := by
      unfold value
      rw [zpow_add_one₀ two_ne_zero]
      norm_num
      ring
    rw [hcarried, shift_carried hleast, hvalue]
    exact hasValue_dite (canonical_carried hleast)

/-- The first shift leaves the mantissa of a double, with the exponent that goes with it. -/
theorem canonical_shifted (hbits : 2 ^ 52 ≤ m ∨ e ≤ -1074) :
    ∃ s : Nat, (max (e + m.log2 - 52) (-1074) - e).toNat = s ∧ Canonical (m / 2 ^ s) (e + s) := by
  refine ⟨_, rfl, ?_⟩
  have hlog : 2 ^ 52 ≤ m → 52 ≤ m.log2 := fun hlarge =>
    (Nat.le_log2 (by rintro rfl; simp at hlarge)).mpr hlarge
  generalize hs : (max (e + m.log2 - 52) (-1074) - e).toNat = s
  have hexponent : e + s = max (e + m.log2 - 52) (-1074) := by omega
  constructor
  case least => omega
  case small =>
    rw [Nat.div_lt_iff_lt_mul (Nat.two_pow_pos s), ← Nat.pow_add]
    calc m < 2 ^ (m.log2 + 1) := Nat.lt_log2_self
      _ ≤ 2 ^ (53 + s) := Nat.pow_le_pow_right two_pos (by omega)
  case full =>
    by_cases hleast : e + s = -1074
    · exact .inr hleast
    · have hmany : 52 ≤ m.log2 := by omega
      have hall : s = m.log2 - 52 := by omega
      exact .inl (hall ▸ (first_bits hmany).1)

/-- Rounding takes a number to a nearest double, if its mantissa has enough bits. -/
theorem rounded_roundWithAccuracy {accuracy : Accuracy}
    (h : StandsFor (ExtendedMantissa.ofMantissaAndAccuracy m accuracy) y)
    (hbits : 2 ^ 52 ≤ m ∨ e ≤ -1074) :
    Rounded (roundWithAccuracy Format.binary64 .positive m e accuracy) (y * 2 ^ e) := by
  obtain ⟨s, hs, hcut⟩ := canonical_shifted hbits
  have hshift : shiftToTargetExponent Format.binary64 m e accuracy =
      (ExtendedMantissa.ofMantissaAndAccuracy m accuracy >>> s, e + s) := by
    unfold shiftToTargetExponent shiftToExponent
    dsimp only
    rw [targetExponent_total, hs]
  have hmantissa :
      (ExtendedMantissa.ofMantissaAndAccuracy m accuracy >>> s).mantissa = m / 2 ^ s := by
    rw [mantissa_shiftRight, mantissa_ofMantissaAndAccuracy]
  have hstands := h.shiftRight s
  generalize ExtendedMantissa.ofMantissaAndAccuracy m accuracy >>> s = em at *
  rw [← hmantissa] at hcut
  have hrounded : Canonical em.roundedMantissa (e + s) ∨
      em.roundedMantissa = 2 ^ 53 ∧ -1074 ≤ e + s := by
    obtain ⟨hleast, hsmall, hfull⟩ := hcut
    by_cases hcarried : em.roundedMantissa = 2 ^ 53
    · exact .inr ⟨hcarried, hleast⟩
    · have hcases := roundedMantissa_cases em
      exact .inl ⟨hleast, by omega, hfull.imp_left (by omega)⟩
  have hvalue := hasValue_roundWithAccuracy hshift hrounded
  refine ⟨_, hvalue, hvalue.isDouble, fun n k hother => ?_⟩
  have hnumber : y * 2 ^ e = y / 2 ^ s * 2 ^ (e + s) := by
    rw [zpow_add₀ two_ne_zero, zpow_natCast]
    field_simp
  rw [hnumber]
  refine nearest_of_grid hstands.nearest (hcut.full.imp_left fun hfull => ?_) hother
  have hfull : (2 : ℚ) ^ 52 ≤ em.mantissa := by exact_mod_cast hfull
  exact hfull.trans hstands.mantissa_le

end Noticeboard.Doubles
