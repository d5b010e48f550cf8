import ClusterCost.Proofs.Binary64.Operations
import ClusterCost.Utilization.Ratio

/-!
# Quotients of amounts

The quotient of two amounts is rounded three times, and every rounding keeps the order. So a quotient that is the same
at the ends of a range of dividends and at the ends of a range of divisors is the same everywhere between
(`quotient_eq_of_corners`).
-/
namespace ClusterCost.Utilization

open Binary64

def roundedQuotient (n d : ℤ) : ℚ :=
  nearest (nearest n / nearest d)

/-- A whole number other than zero that fits 64 bits stays between one and the greatest power of two there. -/
theorem abs_nearest_bounds {n : ℤ} (nonzero : n ≠ 0) (small : |n| ≤ 2 ^ 63) :
    1 ≤ |nearest (n : ℚ)| ∧ |nearest (n : ℚ)| ≤ 2 ^ (63 : ℤ) := by
  have one_le : 1 ≤ |(n : ℚ)| := by exact_mod_cast Int.one_le_abs nonzero
  have le_word : |(n : ℚ)| ≤ 2 ^ (63 : ℤ) := by exact_mod_cast small
  rw [abs_nearest]
  exact ⟨one_le_nearest one_le, nearest_le_two_zpow le_word⟩

theorem inRange_of_small {n : ℤ} (nonzero : n ≠ 0) (small : |n| ≤ 2 ^ 63) : InRange |(n : ℚ)| := by
  have natural : |(n : ℚ)| = (n.natAbs : ℚ) := by
    rw [Nat.cast_natAbs, Int.cast_abs]
  rw [natural]
  rw [Int.abs_eq_natAbs] at small
  apply inRange_natCast (Int.natAbs_pos.mpr nonzero)
  omega

/-- The quotient of two amounts denotes the quotient of their nearest numbers, rounded once more. -/
theorem denotes_quotient {n d : ℤ} (small : |n| ≤ 2 ^ 63) (pos : 0 < d) (small' : d ≤ 2 ^ 63) :
    Denotes (quotient n d) (roundedQuotient n d) := by
  have divisor_small : |d| ≤ 2 ^ 63 := by rwa [abs_of_pos pos]
  have divisor_pos : 0 < nearest (d : ℚ) := nearest_pos (Int.cast_pos.mpr pos)
  have divisor := denotes_ofInt (n := d) (.inr (inRange_of_small pos.ne' divisor_small))
  rcases eq_or_ne n 0 with rfl | nonzero
  · have dividend := denotes_ofInt (n := 0) (.inl rfl)
    exact dividend.div divisor divisor_pos (.inl (by rw [Int.cast_zero, nearest_zero]))
  · have dividend := denotes_ofInt (n := n) (.inr (inRange_of_small nonzero small))
    refine dividend.div divisor divisor_pos (.inr ?_)
    obtain ⟨low, high⟩ := abs_nearest_bounds nonzero small
    obtain ⟨low', high'⟩ := abs_nearest_bounds pos.ne' divisor_small
    rw [abs_of_pos divisor_pos] at low' high'
    rw [abs_div, abs_of_pos divisor_pos]
    constructor
    · rw [le_div_iff₀ divisor_pos]
      calc (2 : ℚ) ^ (-1022 : ℤ) * nearest d ≤ 2 ^ (-1022 : ℤ) * 2 ^ (63 : ℤ) :=
            mul_le_mul_of_nonneg_left high' (two_zpow_pos _).le
        _ = 2 ^ (-959 : ℤ) := by rw [← two_zpow_add]; norm_num
        _ ≤ 1 := zpow_le_one_of_nonpos₀ (by norm_num) (by norm_num)
        _ ≤ |nearest n| := low
    · rw [div_le_iff₀ divisor_pos]
      calc |nearest n| ≤ 2 ^ (63 : ℤ) * 1 := by rw [mul_one]; exact high
        _ ≤ 2 ^ (1023 : ℤ) * nearest d :=
            mul_le_mul (zpow_le_zpow_right₀ (by norm_num) (by norm_num)) low' zero_le_one (two_zpow_pos _).le

/-! ## The order of quotients -/

theorem roundedQuotient_mono_left {n n' d : ℤ} (pos : 0 < d) (le : n ≤ n') :
    roundedQuotient n d ≤ roundedQuotient n' d := by
  have divisor_pos : 0 < nearest (d : ℚ) := nearest_pos (Int.cast_pos.mpr pos)
  have dividends : nearest (n : ℚ) ≤ nearest n' := nearest_mono (Int.cast_le.mpr le)
  exact nearest_mono ((div_le_div_iff_of_pos_right divisor_pos).mpr dividends)

/-- Between two divisors a quotient is between the two quotients; which of them is the greater one depends on the sign
of the dividend. -/
theorem roundedQuotient_between (n : ℤ) {d₁ d d₂ : ℤ} (pos : 0 < d₁) (le : d₁ ≤ d) (le' : d ≤ d₂) :
    (roundedQuotient n d₂ ≤ roundedQuotient n d ∧ roundedQuotient n d ≤ roundedQuotient n d₁) ∨
      (roundedQuotient n d₁ ≤ roundedQuotient n d ∧ roundedQuotient n d ≤ roundedQuotient n d₂) := by
  have pos₁ : 0 < nearest (d₁ : ℚ) := nearest_pos (Int.cast_pos.mpr pos)
  have low : nearest (d₁ : ℚ) ≤ nearest d := nearest_mono (Int.cast_le.mpr le)
  have high : nearest (d : ℚ) ≤ nearest d₂ := nearest_mono (Int.cast_le.mpr le')
  rcases le_total 0 (nearest (n : ℚ)) with nonneg | nonpos
  · left
    exact ⟨nearest_mono (div_le_div_of_nonneg_left nonneg (pos₁.trans_le low) high),
      nearest_mono (div_le_div_of_nonneg_left nonneg pos₁ low)⟩
  · right
    have quotients {a b : ℚ} (a_pos : 0 < a) (a_le : a ≤ b) : nearest n / a ≤ nearest n / b := by
      have magnitudes := div_le_div_of_nonneg_left (neg_nonneg.mpr nonpos) a_pos a_le
      rw [neg_div, neg_div] at magnitudes
      exact neg_le_neg_iff.mp magnitudes
    exact ⟨nearest_mono (quotients pos₁ low), nearest_mono (quotients (pos₁.trans_le low) high)⟩

section Corners

variable {n₁ n n₂ d₁ d d₂ : ℤ}

/-- A quotient that is the same at all ends is the same between them. -/
theorem quotient_eq_of_corners {q : Float} (small : |n₁| ≤ 2 ^ 63) (small' : |n₂| ≤ 2 ^ 63) (n_low : n₁ ≤ n)
    (n_high : n ≤ n₂) (pos : 0 < d₁) (d_low : d₁ ≤ d) (d_high : d ≤ d₂) (d_small : d₂ ≤ 2 ^ 63)
    (corner₁₁ : quotient n₁ d₁ = q) (corner₁₂ : quotient n₁ d₂ = q) (corner₂₁ : quotient n₂ d₁ = q)
    (corner₂₂ : quotient n₂ d₂ = q) : quotient n d = q := by
  have between_small : |n| ≤ 2 ^ 63 := by
    rw [abs_le] at small small' ⊢
    omega
  have denoted {a b : ℤ} (a_small : |a| ≤ 2 ^ 63) (b_pos : 0 < b) (b_small : b ≤ 2 ^ 63) (corner : quotient a b = q) :
      Denotes q (roundedQuotient a b) := corner ▸ denotes_quotient a_small b_pos b_small
  have value₁₁ := denoted small pos (by omega) corner₁₁
  have value₁₂ := (denoted small (by omega) d_small corner₁₂).functional value₁₁
  have value₂₁ := (denoted small' pos (by omega) corner₂₁).functional value₁₁
  have value₂₂ := (denoted small' (by omega) d_small corner₂₂).functional value₁₁
  -- Between the dividends first, at both divisors, and then between the divisors.
  have at_d₁ : roundedQuotient n d₁ = roundedQuotient n₁ d₁ := by
    have low := roundedQuotient_mono_left pos n_low
    have high := roundedQuotient_mono_left pos n_high
    linarith
  have at_d₂ : roundedQuotient n d₂ = roundedQuotient n₁ d₁ := by
    have pos₂ : 0 < d₂ := by omega
    have low := roundedQuotient_mono_left pos₂ n_low
    have high := roundedQuotient_mono_left pos₂ n_high
    linarith
  have value : roundedQuotient n d = roundedQuotient n₁ d₁ := by
    rcases roundedQuotient_between n pos d_low d_high with ⟨low, high⟩ | ⟨low, high⟩
    · linarith
    · linarith
  have denotes := denotes_quotient between_small (pos.trans_le d_low) (by omega)
  rw [value] at denotes
  exact denotes.unique value₁₁

theorem quotient_eq_zero_iff (small : |n| ≤ 2 ^ 63) (pos : 0 < d) (d_small : d ≤ 2 ^ 63) :
    quotient n d = 0.0 ↔ n = 0 := by
  have denotes := denotes_quotient small pos d_small
  have zero : Denotes 0.0 0 := ⟨_, .zero, by decide⟩
  have divisor_pos : 0 < nearest (d : ℚ) := nearest_pos (Int.cast_pos.mpr pos)
  constructor
  · intro same
    rw [same] at denotes
    have value := denotes.functional zero
    unfold roundedQuotient at value
    rw [nearest_eq_zero_iff, div_eq_zero_iff, nearest_eq_zero_iff, Int.cast_eq_zero] at value
    exact value.resolve_right divisor_pos.ne'
  · rintro rfl
    have value : roundedQuotient 0 d = 0 := by
      rw [roundedQuotient, Int.cast_zero, nearest_zero, zero_div, nearest_zero]
    rw [value] at denotes
    exact denotes.unique zero

end Corners

end ClusterCost.Utilization
