import Mathlib.Data.Nat.Log
import Mathlib.Tactic.NormNum

/-!
# A double divided by itself

The quotient of two equal doubles is exactly one, if they are finite and not zero.  So it is for the
double of every number from one on that has 64 bits, although it may be rounded: what rounding
leaves of a number has all 53 bits of a mantissa and an exponent that a double has room for.
-/

namespace Noticeboard.Doubles

open Float.Model Float.Model.UnpackedFloat

/-- A finite number with all 53 bits of a mantissa, and an exponent between two bounds. -/
inductive IsNormal (low high : Int) : UnpackedFloat → Prop where
  | intro {sign : Sign} {m : Nat} {e : Int} {hpos : 0 < m} (hbits : m.log2 = 52) (hlow : low ≤ e)
      (hhigh : e ≤ high) : IsNormal low high (.finite sign m e hpos)

variable {low high e : Int} {m n : Nat}

theorem IsNormal.mono {low' high' : Int} {x : UnpackedFloat} (h : IsNormal low high x)
    (hlow : low' ≤ low) (hhigh : high ≤ high') : IsNormal low' high' x := by
  obtain ⟨hbits, hleast, hmost⟩ := h
  exact .intro hbits (by omega) (by omega)

/-! ## Rounding -/

theorem mantissa_shiftRight (em : ExtendedMantissa) (k : Nat) :
    (em >>> k).mantissa = em.mantissa / 2 ^ k := by
  induction k with
  | zero => simp [HShiftRight.hShiftRight, Nat.repeat]
  | succ k ih =>
      have hstep : (em >>> (k + 1)).mantissa = (em >>> k).mantissa / 2 := rfl
      rw [hstep, ih, Nat.div_div_eq_div_mul, Nat.pow_succ]

theorem roundedMantissa_cases (em : ExtendedMantissa) :
    em.roundedMantissa = em.mantissa ∨ em.roundedMantissa = em.mantissa + 1 := by
  obtain ⟨m, round, sticky⟩ := em
  cases round <;> cases sticky
  · exact .inl rfl
  · exact .inl rfl
  · -- a tie goes to the even one of both
    have htie : m + m % 2 = m ∨ m + m % 2 = m + 1 := by omega
    exact htie
  · exact .inr rfl

theorem mantissa_ofMantissaAndAccuracy (m : Nat) (accuracy : Accuracy) :
    (ExtendedMantissa.ofMantissaAndAccuracy m accuracy).mantissa = m := by
  rcases accuracy with _ | side
  · rfl
  · cases side <;> rfl

theorem targetExponent_max (t : Int) : Format.binary64.targetExponent t = max (t - 53) (-1074) :=
  rfl

/-- The exponent that a double of this size has. -/
theorem targetExponent_total (m : Nat) (e : Int) :
    Format.binary64.targetExponent (totalExponent m e) = max (e + m.log2 - 52) (-1074) := by
  rw [targetExponent_max, totalExponent]
  omega

theorem targetExponent_eq (hlow : -1074 ≤ e + m.log2 - 52) :
    Format.binary64.targetExponent (totalExponent m e) = e + m.log2 - 52 := by
  rw [targetExponent_total, max_eq_left hlow]

/-- A number of at least 53 bits is cut to its first 53. -/
theorem shiftToTargetExponent_eq (hbits : 52 ≤ m.log2) (hlow : -1074 ≤ e + m.log2 - 52)
    (accuracy : Accuracy) :
    (shiftToTargetExponent Format.binary64 m e accuracy).1.mantissa = m / 2 ^ (m.log2 - 52) ∧
      (shiftToTargetExponent Format.binary64 m e accuracy).2 = e + m.log2 - 52 := by
  have hshift : (e + m.log2 - 52 - e).toNat = m.log2 - 52 := by omega
  unfold shiftToTargetExponent shiftToExponent
  dsimp only
  rw [targetExponent_eq hlow, hshift, mantissa_shiftRight, mantissa_ofMantissaAndAccuracy]
  exact ⟨rfl, by omega⟩

theorem first_bits (hbits : 52 ≤ m.log2) :
    2 ^ 52 ≤ m / 2 ^ (m.log2 - 52) ∧ m / 2 ^ (m.log2 - 52) < 2 ^ 53 := by
  have hsome : m ≠ 0 := by
    rintro rfl
    simp at hbits
  have hpos : 0 < 2 ^ (m.log2 - 52) := Nat.two_pow_pos _
  constructor
  · rw [Nat.le_div_iff_mul_le hpos, ← Nat.pow_add, Nat.add_sub_cancel' hbits]
    exact Nat.log2_self_le hsome
  · rw [Nat.div_lt_iff_lt_mul hpos, ← Nat.pow_add,
      show 53 + (m.log2 - 52) = m.log2 + 1 by omega]
    exact Nat.lt_log2_self

theorem isNormal_roundWithAccuracy (sign : Sign) (accuracy : Accuracy) (hbits : 52 ≤ m.log2)
    (hleast : -1074 ≤ low) (hlow : low ≤ e + m.log2 - 52) (hhigh : e + m.log2 - 52 < high) :
    IsNormal low high (roundWithAccuracy Format.binary64 sign m e accuracy) := by
  obtain ⟨hfirst, hexponent⟩ := shiftToTargetExponent_eq (e := e) hbits (by omega) accuracy
  obtain ⟨hleft, hright⟩ := first_bits hbits
  unfold roundWithAccuracy
  generalize shiftToTargetExponent Format.binary64 m e accuracy = first at hfirst hexponent
  obtain ⟨em, e'⟩ := first
  dsimp only at hfirst hexponent ⊢
  rw [← hfirst] at hleft hright
  -- one more may carry into a bit of its own, and is then cut once more
  have hrounded : (em.roundedMantissa.log2 = 52 ∨ em.roundedMantissa.log2 = 53) ∧
      em.roundedMantissa ≠ 0 := by
    have hcases := roundedMantissa_cases em
    have hsome : em.roundedMantissa ≠ 0 := by omega
    rw [Nat.log2_eq_iff hsome, Nat.log2_eq_iff hsome]
    omega
  obtain ⟨hlog, hsome⟩ := hrounded
  have hmore : 52 ≤ em.roundedMantissa.log2 := by omega
  have hagain := shiftToTargetExponent_eq (e := e') hmore (by omega) .exact
  have hbounds := first_bits hmore
  generalize shiftToTargetExponent Format.binary64 em.roundedMantissa e' .exact = second at hagain
  obtain ⟨final, e''⟩ := second
  dsimp only at hagain ⊢
  rw [← hagain.1] at hbounds
  have hfinal : final.mantissa ≠ 0 := by omega
  rw [dif_neg hfinal]
  refine .intro ((Nat.log2_eq_iff hfinal).mpr (by omega)) ?_ ?_
  · omega
  · omega

/-! ## Packing -/

theorem log2_significand (significand : BitVec 52) : (1#1 ++ significand).toNat.log2 = 52 := by
  have hsmall : significand.toNat < 2 ^ 52 := significand.isLt
  have hvalue : (1#1 ++ significand).toNat = 2 ^ 52 + significand.toNat := by
    rw [BitVec.toNat_append, ← Nat.shiftLeft_add_eq_or_of_lt hsmall]
    rfl
  rw [hvalue, Nat.log2_eq_iff (by omega)]
  omega

theorem isNormal_unpack (sign : Sign) {exponent : BitVec 11} (significand : BitVec 52)
    (hleast : 0 < exponent.toNat) (hmost : exponent.toNat < 2047)
    (hlow : low ≤ (exponent.toNat : Int) - 1075) (hhigh : (exponent.toNat : Int) - 1075 ≤ high) :
    IsNormal low high (UnpackedFloat.unpack Format.binary64
      (packComponents Format.binary64 sign exponent significand)) := by
  have hfinite : exponent ≠ -1#11 := by
    rintro rfl
    revert hmost
    decide
  have hnormal : exponent ≠ 0#11 := by
    rintro rfl
    exact Nat.lt_irrefl 0 hleast
  -- of the packed bits only the exponent counts
  have hunpacked (b : BitVec Format.binary64.numBits) (hb : unpackExponent b = exponent) :
      IsNormal low high (UnpackedFloat.unpack Format.binary64 b) := by
    subst hb
    unfold UnpackedFloat.unpack
    rw [if_neg hfinite, if_neg hnormal]
    exact .intro (log2_significand _) hlow hhigh
  exact hunpacked _ unpackExponent_packComponents

theorem isNormal_unpack_pack {x : UnpackedFloat} (h : IsNormal low high x) (hleast : -1074 ≤ low)
    (hmost : high ≤ 971) : IsNormal low high (Float.Model.pack x).unpack := by
  obtain @⟨sign, m, e, hpos, hbits, hlow, hhigh⟩ := h
  have hroom : ¬ 2 ^ 11 ≤ (e + 1023 + 52).toNat + 1 := by omega
  have hexponent : (BitVec.ofNat 11 (e + 1023 + 52).toNat).toNat = (e + 1023 + 52).toNat := by
    rw [BitVec.toNat_ofNat, Nat.mod_eq_of_lt]
    omega
  have hpacked : UnpackedFloat.pack Format.binary64 (.finite sign m e hpos) =
      packComponents Format.binary64 sign (BitVec.ofNat 11 (e + 1023 + 52).toNat)
        (BitVec.ofNat 52 m) := by
    exact (if_neg hroom).trans (if_pos (by rw [hbits]; rfl))
  show IsNormal low high (UnpackedFloat.unpack Format.binary64
    (UnpackedFloat.pack Format.binary64 (.finite sign m e hpos)))
  rw [hpacked]
  apply isNormal_unpack <;> rw [hexponent] <;> omega

/-! ## Doubles of numbers -/

theorem log2_shiftLeft (hsome : n ≠ 0) (k : Nat) : (n <<< k).log2 = n.log2 + k := by
  have hshifted : n <<< k ≠ 0 := by simpa using hsome
  have hpow : 0 < 2 ^ k := Nat.two_pow_pos k
  rw [Nat.log2_eq_iff hshifted, Nat.shiftLeft_eq, Nat.pow_add, Nat.add_right_comm, Nat.pow_add]
  exact ⟨Nat.mul_le_mul_right _ (Nat.log2_self_le hsome),
    Nat.mul_lt_mul_of_pos_right Nat.lt_log2_self hpow⟩

/-- A number of at most 53 bits is filled up with zeros. -/
theorem isNormal_round (hsome : n ≠ 0) (hbits : n < 2 ^ 53) :
    IsNormal (-52) 1 (UnpackedFloat.round Format.binary64 .positive n 0) := by
  have hlog : n.log2 < 53 := (Nat.log2_lt hsome).mpr hbits
  have hshift : (0 - ((0 : Int) + n.log2 - 52)).toNat = 52 - n.log2 := by omega
  unfold UnpackedFloat.round decreaseExponent
  dsimp only
  rw [targetExponent_eq (by omega), hshift]
  have hfilled : (n <<< (52 - n.log2)).log2 = 52 := by
    rw [log2_shiftLeft hsome]
    omega
  apply isNormal_roundWithAccuracy <;> omega

theorem isNormal_mul {low' high' : Int} {x y : UnpackedFloat} (hx : IsNormal low high x)
    (hy : IsNormal low' high' y) (hleast : -1074 ≤ low + low' + 52) :
    IsNormal (low + low' + 52) (high + high' + 54) (UnpackedFloat.mul Format.binary64 x y) := by
  obtain @⟨sign, m, e, hpos, hbits, hlow, hhigh⟩ := hx
  obtain @⟨sign', m', e', hpos', hbits', hlow', hhigh'⟩ := hy
  have hproduct : m * m' ≠ 0 := (Nat.mul_pos hpos hpos').ne'
  have hlog : (m * m').log2 = 104 ∨ (m * m').log2 = 105 := by
    obtain ⟨hleft, hright⟩ := (Nat.log2_eq_iff hpos.ne').mp hbits
    obtain ⟨hleft', hright'⟩ := (Nat.log2_eq_iff hpos'.ne').mp hbits'
    have hfirst : 2 ^ 52 * 2 ^ 52 ≤ m * m' := Nat.mul_le_mul hleft hleft'
    have hlast : m * m' < 2 ^ 53 * 2 ^ 53 := Nat.mul_lt_mul'' hright hright'
    rw [Nat.log2_eq_iff hproduct, Nat.log2_eq_iff hproduct]
    omega
  unfold UnpackedFloat.mul
  apply isNormal_roundWithAccuracy <;> omega

theorem isNormal_one : IsNormal (-52) (-52) (Float.ofBits 0x3FF0000000000000).toModel.unpack := by
  have hbits : (0x3FF0000000000000 : UInt64).toBitVec =
      packComponents Format.binary64 .positive 1023#11 0#52 := by
    decide
  apply isNormal_unpack_pack
  · rw [hbits]
    apply isNormal_unpack <;> decide
  · decide
  · decide

theorem ofUInt64_eq (hsome : n ≠ 0) (hbits : n < 2 ^ 64) :
    UnpackedFloat.ofUInt64 Format.binary64 n.toUInt64 =
      UnpackedFloat.round Format.binary64 .positive n 0 := by
  have hsame : n.toUInt64.toNat = n := UInt64.toNat_ofNat_of_lt' hbits
  have hpositive : Ord.compare (n : Int) 0 = .gt := Int.compare_eq_gt.mpr (by omega)
  unfold UnpackedFloat.ofUInt64 UnpackedFloat.ofNat UnpackedFloat.ofInt
    UnpackedFloat.normalize
  rw [hsame, hpositive]
  rfl

/-- A number of 53 bits is converted and multiplied by one. -/
theorem ofNat_of_short (hshort : n < 2 ^ 53) :
    (Float.ofNat n).toModel = Float.Model.pack (UnpackedFloat.mul Format.binary64
      (Float.Model.pack (UnpackedFloat.ofUInt64 Format.binary64 n.toUInt64)).unpack
      (Float.ofBits 0x3FF0000000000000).toModel.unpack) := by
  show (Float.ofScientific n false 0).toModel = _
  unfold Float.ofScientific
  rw [dif_pos ⟨hshort, by decide⟩]
  rfl

/-- A longer number gets another 53 bits, and is rounded then. -/
theorem ofNat_of_long (hlong : 2 ^ 53 ≤ n) :
    (Float.ofNat n).toModel = Float.Model.pack
      (roundWithAccuracy Format.binary64 .positive (n <<< 53) (-53) .exact) := by
  have hsome : n ≠ 0 := by omega
  have hscientific : UnpackedFloat.ofScientific Format.binary64 n 0 =
      roundWithAccuracy Format.binary64 .positive (n <<< 53 * 10 ^ 0) (-53) .exact := by
    unfold UnpackedFloat.ofScientific
    rw [dif_neg hsome, if_neg (by decide), if_neg (by simp), if_pos (by decide)]
    rfl
  rw [Nat.pow_zero, Nat.mul_one] at hscientific
  show (Float.ofScientific n false 0).toModel = _
  unfold Float.ofScientific
  rw [dif_neg fun h => hlong.not_gt h.1, ← hscientific]
  rfl

/-- The double of a number, rounded or not, is finite and not zero. -/
theorem isNormal_ofNat (hsome : n ≠ 0) (hbits : n < 2 ^ 64) :
    IsNormal (-52) 12 (Float.ofNat n).toModel.unpack := by
  have hlog : n.log2 < 64 := (Nat.log2_lt hsome).mpr hbits
  rcases lt_or_ge n (2 ^ 53) with hshort | hlong
  · have hconverted := isNormal_unpack_pack (isNormal_round hsome hshort) (by decide) (by decide)
    rw [← ofUInt64_eq hsome hbits] at hconverted
    rw [ofNat_of_short hshort]
    apply isNormal_unpack_pack _ (by decide) (by decide)
    exact (isNormal_mul hconverted isNormal_one (by decide)).mono (by decide) (by decide)
  · have hlarge : (n <<< 53).log2 = n.log2 + 53 := log2_shiftLeft hsome 53
    rw [ofNat_of_long hlong]
    apply isNormal_unpack_pack _ (by decide) (by decide)
    apply isNormal_roundWithAccuracy <;> omega

/-! ## The quotient -/

theorem divCore_self (hpos : 0 < m) :
    divCore Format.binary64 m e m e = (2 ^ 53, -53, .exact) := by
  have htarget : min (e - e)
      (Format.binary64.targetExponent (totalExponent m e - totalExponent m e)) = -53 := by
    rw [Int.sub_self, Int.sub_self]
    decide
  have hshift : (e - e - -53).toNat = 53 := by omega
  unfold divCore
  dsimp only
  rw [htarget, hshift, Nat.shiftLeft_eq, Nat.mul_div_cancel_left _ hpos, Nat.mul_mod_right]
  rfl

theorem div_unpacked_self {x : UnpackedFloat} (h : IsNormal low high x) :
    UnpackedFloat.div Format.binary64 x x =
      roundWithAccuracy Format.binary64 .positive (2 ^ 53) (-53) .exact := by
  obtain @⟨sign, m, e, hpos, -, -, -⟩ := h
  have hsign : sign / sign = .positive := by cases sign <;> rfl
  unfold UnpackedFloat.div
  dsimp only
  rw [divCore_self hpos, hsign]

theorem div_self {x : Float} (h : IsNormal low high x.toModel.unpack) : x / x = 1.0 := by
  show Float.ofModel (Float.Model.pack
    (UnpackedFloat.div Format.binary64 x.toModel.unpack x.toModel.unpack)) = 1.0
  rw [div_unpacked_self h]
  decide +kernel

theorem ofNat_div_self (hsome : n ≠ 0) (hbits : n < 2 ^ 64) :
    Float.ofNat n / Float.ofNat n = 1.0 :=
  div_self (isNormal_ofNat hsome hbits)

end Noticeboard.Doubles
