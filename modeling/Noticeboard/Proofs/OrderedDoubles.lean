import Noticeboard.Proofs.PackedDoubles
import Noticeboard.Proofs.RoundedOperations

/-!
# The order of results

Sums and products of amounts, and ratios of counts, are in the order of the numbers that they come
from: where the exact results differ rounding keeps their order, and where they are the same they
come from the same doubles.
-/

namespace Noticeboard.Doubles

open Float.Model Float.Model.UnpackedFloat

variable {m n : Nat} {x y x' y' : UnpackedFloat} {v w : ℚ} {a b a' b' : WithTop ℚ}

/-! ## Results -/

/-- A result that is still to be stored is rounded from the number, or is infinite as that is. -/
inductive Gives : UnpackedFloat → WithTop ℚ → Prop where
  | rounded {x : UnpackedFloat} {v : ℚ} (h : Rounded x v) : Gives x v
  | infinity : Gives (.infinity .positive) ⊤

theorem Gives.amount (h : Gives x a) : ∃ c, Amount (Float.Model.pack x).unpack c := by
  cases h with
  | rounded h => exact h.amount
  | infinity => exact ⟨⊤, .infinity⟩

theorem Gives.eq_infinity (h : Gives x a) (htop : a = ⊤) : x = .infinity .positive := by
  cases h with
  | rounded _ => exact absurd htop WithTop.coe_ne_top
  | infinity => rfl

/-- Results are in the order of their numbers, if those that are finite and the same come from the
same doubles. -/
theorem Gives.le (hx : Gives x a) (hy : Gives y b) (hle : a ≤ b) (hsame : a = b → a ≠ ⊤ → x = y) :
    (Float.Model.pack x).unpack.le (Float.Model.pack y).unpack = true := by
  rcases hle.lt_or_eq with hlt | heq
  · cases hx with
    | infinity => exact absurd hlt not_top_lt
    | rounded hx =>
        cases hy with
        | rounded hy => exact hx.le hy (WithTop.coe_lt_coe.mp hlt)
        | infinity =>
            obtain ⟨c, hamount⟩ := hx.amount
            exact (hamount.le_iff .infinity).mpr le_top
  · have hxy : x = y := by
      by_cases htop : a = ⊤
      · rw [hx.eq_infinity htop, hy.eq_infinity (heq ▸ htop)]
      · exact hsame heq htop
    obtain ⟨c, hamount⟩ := hx.amount
    exact hxy ▸ (hamount.le_iff hamount).mpr le_rfl

/-! ## Sums and products -/

theorem gives_add (hx : Amount x a) (hy : Amount y b) :
    Gives (UnpackedFloat.add Format.binary64 x y) (a + b) := by
  cases hx with
  | infinity =>
      rw [top_add]
      cases hy with
      | infinity => exact .infinity
      | finite hy _ =>
          cases hy with
          | zero => exact .infinity
          | finite _ => exact .infinity
  | finite hx _ =>
      cases hy with
      | infinity =>
          rw [add_top]
          cases hx with
          | zero => exact .infinity
          | finite _ => exact .infinity
      | finite hy _ => exact .rounded (rounded_add hx hy)

theorem gives_mul (hx : HasValue x v) (hpos : 0 < v) (hy : Amount y b) :
    Gives (UnpackedFloat.mul Format.binary64 x y) (b.map (v * ·)) := by
  cases hy with
  | infinity =>
      cases hx with
      | zero => exact absurd hpos (lt_irrefl 0)
      | finite _ => exact .infinity
  | finite hy _ => exact .rounded (rounded_mul hx hy)

theorem add_le (hx : Amount x a) (hy : Amount y b) (hx' : Amount x' a') (hy' : Amount y' b')
    (ha : a ≤ a') (hb : b ≤ b') :
    (Float.Model.pack (UnpackedFloat.add Format.binary64 x y)).unpack.le
      (Float.Model.pack (UnpackedFloat.add Format.binary64 x' y')).unpack = true := by
  refine (gives_add hx hy).le (gives_add hx' hy') (add_le_add ha hb) fun hsame hfinite => ?_
  obtain ⟨haFinite, hbFinite⟩ := WithTop.add_ne_top.mp hfinite
  obtain ⟨haFinite', hbFinite'⟩ := WithTop.add_ne_top.mp (hsame ▸ hfinite)
  lift a to ℚ using haFinite
  lift b to ℚ using hbFinite
  lift a' to ℚ using haFinite'
  lift b' to ℚ using hbFinite'
  norm_cast at ha hb hsame
  obtain rfl : a = a' := by linarith
  obtain rfl : b = b' := by linarith
  rw [hx.unique hx' rfl, hy.unique hy' rfl]

theorem mul_le (hx : HasValue x v) (hpos : 0 < v) (hy : Amount y b) (hy' : Amount y' b')
    (hb : b ≤ b') :
    (Float.Model.pack (UnpackedFloat.mul Format.binary64 x y)).unpack.le
      (Float.Model.pack (UnpackedFloat.mul Format.binary64 x y')).unpack = true := by
  have hle : b.map (v * ·) ≤ b'.map (v * ·) :=
    (monotone_id.const_mul hpos.le).withTop_map hb
  refine (gives_mul hx hpos hy).le (gives_mul hx hpos hy') hle fun hsame _ => ?_
  have hsame : b = b' := Option.map_injective (mul_right_injective₀ hpos.ne') hsame
  rw [hy.unique hy' hsame]

/-! ## Counts -/

theorem hasValue_one : HasValue (Float.ofBits 0x3FF0000000000000).toModel.unpack 1 := by
  have hone : HasValue (Float.ofBits 0x3FF0000000000000).toModel.unpack (value (2 ^ 52) (-52)) :=
    .finite ⟨by decide, by decide, .inl le_rfl⟩
  have hvalue : value (2 ^ 52) (-52) = 1 := by
    unfold value
    norm_num
  exact hvalue ▸ hone

theorem rounded_ofUInt64 (hbits : n < 2 ^ 64) :
    Rounded (UnpackedFloat.ofUInt64 Format.binary64 n.toUInt64) n := by
  rcases Nat.eq_zero_or_pos n with rfl | hpos
  · exact_mod_cast HasValue.zero.rounded
  · have hvalue : value n 0 = n := by rw [value, zpow_zero, mul_one]
    rw [ofUInt64_eq hpos.ne' hbits, ← hvalue]
    exact rounded_round hpos.ne' 0

/-- No double of a 64-bit number is too large. -/
theorem Nearest.lt_limit (h : Nearest w n) (hbits : n < 2 ^ 64) : w < 2 ^ 1024 := by
  have hpower : HasValue (.finite .positive (2 ^ 52) 12 (by decide)) (value (2 ^ 52) 12) :=
    .finite ⟨by decide, by decide, .inl le_rfl⟩
  have hvalue : value (2 ^ 52) 12 = 2 ^ 64 := by
    unfold value
    norm_num
  rw [hvalue] at hpower
  calc w ≤ 2 ^ 64 := h.mono hpower.nearest (by exact_mod_cast hbits)
    _ < 2 ^ 1024 := pow_lt_pow_right₀ one_lt_two (by decide)

/-- The double of a count is finite and nearest to it. -/
theorem hasValue_ofNat (hbits : n < 2 ^ 64) :
    ∃ w, HasValue (Float.ofNat n).toModel.unpack w ∧ Nearest w n := by
  rcases lt_or_ge n (2 ^ 53) with hshort | hlong
  · obtain ⟨w, hvalue, hnearest⟩ := rounded_ofUInt64 hbits
    have hlimit := hnearest.lt_limit hbits
    -- the multiplication by one changes nothing
    obtain ⟨w', hvalue', hnearest'⟩ := rounded_mul (hvalue.stored hlimit) hasValue_one
    rw [mul_one] at hnearest'
    obtain rfl : w' = w := hnearest'.eq_of_hasValue hvalue
    rw [ofNat_of_short hshort]
    exact ⟨w', hvalue'.stored hlimit, hnearest⟩
  · have hvalue : (n : ℚ) = ((n <<< 53 : ℕ) : ℚ) * 2 ^ (-53 : ℤ) := by
      rw [Nat.shiftLeft_eq]
      push_cast
      rw [zpow_neg]
      field_simp
      norm_num
    have hlarge : 2 ^ 52 ≤ n <<< 53 := by
      rw [Nat.shiftLeft_eq]
      omega
    have hrounded := rounded_roundWithAccuracy (e := -53) (standsFor_exact (n <<< 53)) (.inl hlarge)
    rw [← hvalue] at hrounded
    obtain ⟨w, hdouble, hnearest⟩ := hrounded
    rw [ofNat_of_long hlong]
    exact ⟨w, hdouble.stored (hnearest.lt_limit hbits), hnearest⟩

/-! ## Ratios of counts -/

/-- The number of a double, if it is finite and from zero on. -/
def number : UnpackedFloat → ℚ
  | .finite _ m e _ => value m e
  | _ => 0

theorem HasValue.number_eq (h : HasValue x v) : number x = v := by
  cases h with
  | zero => rfl
  | finite _ => rfl

/-- The number of the double of a count. -/
def countValue (n : Nat) : ℚ :=
  number (Float.ofNat n).toModel.unpack

theorem hasValue_count (hbits : n < 2 ^ 64) :
    HasValue (Float.ofNat n).toModel.unpack (countValue n) ∧ Nearest (countValue n) n := by
  obtain ⟨w, hvalue, hnearest⟩ := hasValue_ofNat hbits
  have hw : countValue n = w := hvalue.number_eq
  exact hw ▸ ⟨hvalue, hnearest⟩

theorem countValue_mono (hle : m ≤ n) (hbits : n < 2 ^ 64) : countValue m ≤ countValue n := by
  rcases hle.lt_or_eq with hlt | rfl
  · have hnearest := (hasValue_count (hle.trans_lt hbits)).2
    exact hnearest.mono (hasValue_count hbits).2 (by exact_mod_cast hlt)
  · exact le_rfl

theorem countValue_zero : countValue 0 = 0 := by
  have hnearest := (hasValue_count (n := 0) (by decide)).2
  rw [Nat.cast_zero] at hnearest
  exact hnearest.eq_of_hasValue .zero

theorem countValue_pos (hsome : 0 < n) (hbits : n < 2 ^ 64) : 0 < countValue n := by
  have hnearest := (hasValue_count (n := 1) (by decide)).2
  rw [Nat.cast_one] at hnearest
  have hone : countValue 1 = 1 := hnearest.eq_of_hasValue hasValue_one
  exact zero_lt_one.trans_le (hone.symm.le.trans (countValue_mono hsome hbits))

theorem rounded_ratio (hm : m < 2 ^ 64) (hsome : 0 < n) (hn : n < 2 ^ 64) :
    Rounded (UnpackedFloat.div Format.binary64 (Float.ofNat m).toModel.unpack
      (Float.ofNat n).toModel.unpack) (countValue m / countValue n) :=
  rounded_div (hasValue_count hm).1 (hasValue_count hn).1 (countValue_pos hsome hn)

/-- Two ratios in order are the same only if their parts are. -/
theorem parts_eq_of_ratio_eq {p q p' q' : ℚ} (hp : p ≤ p') (hq : q' ≤ q) (hp' : 0 < p')
    (hq' : 0 < q') (h : p / q = p' / q') : p = p' ∧ q = q' := by
  have hq0 := hq'.trans_le hq
  have hcross : p * q' = p' * q := (div_eq_div_iff hq0.ne' hq'.ne').mp h
  have hwhole : q = q' := by
    refine le_antisymm (le_of_mul_le_mul_left ?_ hp') hq
    rw [← hcross]
    exact mul_le_mul_of_nonneg_right hp hq'.le
  rw [hwhole] at hcross
  exact ⟨mul_right_cancel₀ hq'.ne' hcross, hwhole⟩

/-- More of less is no smaller a ratio. -/
theorem ratio_le {part whole part' whole' : Nat} (hpart : part ≤ part') (hwhole : whole' ≤ whole)
    (hsome : 0 < part') (hless : part' ≤ whole') (hbits : whole < 2 ^ 64) :
    (Float.Model.pack (UnpackedFloat.div Format.binary64 (Float.ofNat part).toModel.unpack
        (Float.ofNat whole).toModel.unpack)).unpack.le
      (Float.Model.pack (UnpackedFloat.div Format.binary64 (Float.ofNat part').toModel.unpack
        (Float.ofNat whole').toModel.unpack)).unpack = true := by
  have hp := countValue_mono hpart (by omega)
  have hq := countValue_mono hwhole hbits
  have hp' : 0 < countValue part' := countValue_pos hsome (by omega)
  have hq' : 0 < countValue whole' := countValue_pos (by omega) (by omega)
  have hfirst : Rounded _ (countValue part / countValue whole) :=
    rounded_ratio (by omega) (by omega) hbits
  have hsecond : Rounded _ (countValue part' / countValue whole') :=
    rounded_ratio (by omega) (by omega) (by omega)
  have hratio : countValue part / countValue whole ≤ countValue part' / countValue whole' :=
    div_le_div₀ hp'.le hp hq' hq
  refine (Gives.rounded hfirst).le (.rounded hsecond) (WithTop.coe_le_coe.mpr hratio)
    fun hsame _ => ?_
  obtain ⟨hparts, hwholes⟩ := parts_eq_of_ratio_eq hp hq hp' hq' (WithTop.coe_injective hsame)
  have hpartSame : (Float.ofNat part).toModel.unpack = (Float.ofNat part').toModel.unpack :=
    (hasValue_count (by omega)).1.unique (hasValue_count (by omega)).1 hparts
  have hwholeSame : (Float.ofNat whole).toModel.unpack = (Float.ofNat whole').toModel.unpack :=
    (hasValue_count hbits).1.unique (hasValue_count (by omega)).1 hwholes
  rw [hpartSame, hwholeSame]

end Noticeboard.Doubles
