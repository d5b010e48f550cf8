import ClusterCost.Proofs.Binary64.Nearest

/-!
# Remainders that rounding keeps

A whole number is split into a part that ends in zeros and a remainder. Rounding to 53 digits drops the remainder exactly
if it is at most half of the last digit, and otherwise leaves at least that digit (`nearest_add_of_le_half`,
`le_nearest_add_of_half_lt`). One digit over a multiple of the divisor is enough for the quotient to stay above the whole
number when it is rounded once more (`lt_nearest_div`).
-/
namespace ClusterCost.Binary64

section Remainder

variable {c r j : ℕ}

/-- A whole number of which the last digit kept divides one part evenly: its mantissa is an even number and a rest. -/
theorem nearest_add_eq (digits : exponent ((c + r : ℕ) : ℚ) = j) (whole : 2 ^ (j + 1) ∣ c) :
    ∃ a : ℤ, a % 2 = 0 ∧ (c : ℚ) = a * 2 ^ j ∧
      nearest ((c + r : ℕ) : ℚ) = roundEven (a + (r : ℚ) / 2 ^ j) * 2 ^ j := by
  obtain ⟨b, rfl⟩ := whole
  have power_pos : (0 : ℚ) < 2 ^ j := by positivity
  refine ⟨2 * b, by omega, by push_cast; ring, ?_⟩
  have mantissa_eq : ((2 ^ (j + 1) * b + r : ℕ) : ℚ) / 2 ^ j = ((2 * b : ℤ) : ℚ) + r / 2 ^ j := by
    push_cast
    field_simp
    ring
  rw [nearest, digits, zpow_natCast, mantissa_eq]

/-- A remainder of at most half of the last digit is rounded off. -/
theorem nearest_add_of_le_half (digits : exponent ((c + r : ℕ) : ℚ) = j) (whole : 2 ^ (j + 1) ∣ c)
    (small : 2 * r ≤ 2 ^ j) : nearest ((c + r : ℕ) : ℚ) = c := by
  obtain ⟨a, even, c_eq, nearest_eq⟩ := nearest_add_eq digits whole
  have small' : (r : ℚ) / 2 ^ j ≤ 1 / 2 := by
    rw [div_le_div_iff₀ (by positivity) two_pos]
    exact_mod_cast (by omega : r * 2 ≤ 1 * 2 ^ j)
  rw [nearest_eq, roundEven_of_le_half even (by positivity) small', c_eq]

/-- A greater remainder keeps at least the last digit. -/
theorem le_nearest_add_of_half_lt (digits : exponent ((c + r : ℕ) : ℚ) = j) (whole : 2 ^ (j + 1) ∣ c)
    (large : 2 ^ j < 2 * r) : (c : ℚ) + 2 ^ j ≤ nearest ((c + r : ℕ) : ℚ) := by
  obtain ⟨a, -, c_eq, nearest_eq⟩ := nearest_add_eq digits whole
  have large' : 1 / 2 < (r : ℚ) / 2 ^ j := by
    rw [div_lt_div_iff₀ two_pos (by positivity)]
    exact_mod_cast (by omega : 1 * 2 ^ j < r * 2)
  have up : (a : ℚ) + 1 ≤ roundEven (a + (r : ℚ) / 2 ^ j) := by exact_mod_cast lt_roundEven_of_half_lt large'
  rw [nearest_eq, c_eq]
  calc (a : ℚ) * 2 ^ j + 2 ^ j = (a + 1) * 2 ^ j := by ring
    _ ≤ roundEven (a + (r : ℚ) / 2 ^ j) * 2 ^ j := mul_le_mul_of_nonneg_right up (by positivity)

end Remainder

/-- A quotient that is more than a whole number by at least the last digit of the dividend stays above it when it is
rounded: the error is less than what that digit is worth. -/
theorem lt_nearest_div {a k : ℕ} {g x : ℚ} (pos : 0 < k) (above : a * k + g ≤ x) (short : x < 2 ^ 53 * g)
    (nonneg : 0 ≤ x) : (a : ℚ) < nearest (x / k) := by
  have divisor_pos : (0 : ℚ) < k := Nat.cast_pos.mpr pos
  have error := abs_le.mp (nearest_error (x / k))
  rw [abs_of_nonneg (div_nonneg nonneg divisor_pos.le)] at error
  have digit : x / k / 2 ^ 53 < g / k := by
    rw [div_div, div_lt_div_iff₀ (by positivity) divisor_pos]
    calc x * k < 2 ^ 53 * g * k := mul_lt_mul_of_pos_right short divisor_pos
      _ = g * (k * 2 ^ 53) := by ring
  have quotient : (a : ℚ) + g / k ≤ x / k := by
    rw [le_div_iff₀ divisor_pos, add_mul, div_mul_cancel₀ _ divisor_pos.ne']
    exact above
  linarith

end ClusterCost.Binary64
