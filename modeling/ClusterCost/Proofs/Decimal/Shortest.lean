import ClusterCost.Decimal.Shortest
import ClusterCost.Proofs.Binary64.Nearest

/-!
# Decimals that read back

The decimal that is written for a float is no more than half a unit of the last binary place away from it
(`shortest_near`): it lies on a decimal grid, between the numbers halfway to the float's neighbours. The grids are tried
from coarse to fine, and the last one that is tried has a point there, whatever the float.
-/
namespace ClusterCost.Decimal

open Binary64

def Binary.magnitude (b : Binary) : ℚ :=
  b.mantissa * 2 ^ b.exponent

/-- What floats have room for. -/
structure Binary.Bounded (b : Binary) : Prop where
  mantissa_lt : b.mantissa < 2 ^ 53
  least : -1074 ≤ b.exponent
  greatest : b.exponent ≤ 971

theorem Binary.bounded_of_ofFloat? {x : Float} {b : Binary} (finite : ofFloat? x = some b) : b.Bounded := by
  have power52 : Nat.pow 2 52 = 2 ^ 52 := rfl
  have power11 : Nat.pow 2 11 = 2 ^ 11 := rfl
  unfold ofFloat? minNormal minExponent at finite
  simp only [power52, power11] at finite
  have low_lt := Nat.mod_lt x.toBits.toNat (by norm_num : 2 ^ 52 > 0)
  have power_lt := Nat.mod_lt (x.toBits.toNat / 2 ^ 52) (by norm_num : 2 ^ 11 > 0)
  split at finite
  · cases finite
  · split at finite
    · cases finite
      constructor <;> dsimp only <;> omega
    · cases finite
      constructor <;> dsimp only <;> omega

def Shortest.value (s : Shortest) : ℚ :=
  s.digits * 10 ^ s.exponent

theorem Shortest.dropZeros_value (fuel : Nat) (s : Shortest) : (s.dropZeros fuel).value = s.value := by
  induction fuel generalizing s with
  | zero => rfl
  | succ fuel ih =>
    unfold dropZeros
    split
    · next zeros =>
      have digits_eq : ((s.digits / 10 : Nat) : ℚ) * 10 = s.digits := by
        have exact_quotient : s.digits / 10 * 10 = s.digits := by omega
        exact_mod_cast exact_quotient
      rw [ih, value, value, zpow_add_one₀ (by norm_num), mul_comm ((10 : ℚ) ^ s.exponent), ← mul_assoc, digits_eq]
    · rfl

/-! ## Fractions -/

/-- A power as a quotient of powers that whole numbers have. -/
theorem zpow_eq_div (b : ℚ) (nonzero : b ≠ 0) (e : ℤ) : b ^ e = b ^ e.toNat / b ^ (-e).toNat := by
  rw [← zpow_natCast, ← zpow_natCast, ← zpow_sub₀ nonzero]
  congr 1
  omega

/-- Membership in an interval, in numbers. -/
theorem Interval.contains_iff {i : Interval} (pos : 0 < i.divisor) {n : Nat} {k : ℤ} : i.contains n k = true ↔
    if i.closed then (i.low / i.divisor : ℚ) ≤ n * 10 ^ k ∧ (n * 10 ^ k : ℚ) ≤ i.high / i.divisor
    else (i.low / i.divisor : ℚ) < n * 10 ^ k ∧ (n * 10 ^ k : ℚ) < i.high / i.divisor := by
  have pos' : (0 : ℚ) < i.divisor := Nat.cast_pos.mpr pos
  have places_pos : (0 : ℚ) < 10 ^ (-k).toNat := by positivity
  have point_eq : (n * 10 ^ k : ℚ) = n * 10 ^ k.toNat / 10 ^ (-k).toNat := by
    rw [zpow_eq_div 10 (by norm_num), mul_div_assoc]
  have places_eq : Nat.pow 10 (-k).toNat = 10 ^ (-k).toNat := rfl
  have power_eq : Nat.pow 10 k.toNat = 10 ^ k.toNat := rfl
  have cast_eq : ((n * i.divisor * 10 ^ k.toNat : Nat) : ℚ) = n * 10 ^ k.toNat * i.divisor := by
    push_cast
    ring
  unfold contains
  simp only [places_eq, power_eq, point_eq, div_le_div_iff₀ pos' places_pos, div_le_div_iff₀ places_pos pos',
    div_lt_div_iff₀ pos' places_pos, div_lt_div_iff₀ places_pos pos', ← cast_eq]
  split <;> simp only [Bool.and_eq_true, decide_eq_true_eq] <;> norm_cast

/-! ## The interval of a float -/

section Interval

variable {b : Binary} {k : ℤ} {n : Nat}

theorem divisor_ofBinary_pos (b : Binary) : 0 < (Interval.ofBinary b).divisor :=
  Nat.two_pow_pos _

theorem scale_div_divisor (b : Binary) :
    (2 ^ (b.exponent - 2).toNat / (Interval.ofBinary b).divisor : ℚ) = 2 ^ b.exponent / 4 := by
  have quarter : (2 : ℚ) ^ b.exponent / 4 = 2 ^ (b.exponent - 2) := by
    rw [zpow_sub₀ two_ne_zero]
    norm_num
  rw [quarter, zpow_eq_div 2 two_ne_zero, neg_sub]
  change _ / ((2 ^ (2 - b.exponent).toNat : Nat) : ℚ) = _
  push_cast
  rfl

theorem middle_div_divisor (b : Binary) :
    ((Interval.ofBinary b).middle / (Interval.ofBinary b).divisor : ℚ) = b.magnitude := by
  have middle_eq : ((Interval.ofBinary b).middle : ℚ) = 4 * b.mantissa * 2 ^ (b.exponent - 2).toNat := by
    change ((4 * b.mantissa * 2 ^ (b.exponent - 2).toNat : Nat) : ℚ) = _
    push_cast
    rfl
  rw [middle_eq, mul_div_assoc, scale_div_divisor, Binary.magnitude]
  ring

/-- The interval reaches half a unit up. -/
theorem high_div_divisor (b : Binary) :
    ((Interval.ofBinary b).high / (Interval.ofBinary b).divisor : ℚ) = b.magnitude + 2 ^ b.exponent / 2 := by
  have high_eq : ((Interval.ofBinary b).high : ℚ) = (4 * b.mantissa + 2) * 2 ^ (b.exponent - 2).toNat := by
    change (((4 * b.mantissa + 2) * 2 ^ (b.exponent - 2).toNat : Nat) : ℚ) = _
    push_cast
    rfl
  rw [high_eq, mul_div_assoc, scale_div_divisor, Binary.magnitude]
  ring

/-- The interval reaches between a quarter and a half of a unit down. -/
theorem low_div_divisor_bounds (pos : 0 < b.mantissa) :
    b.magnitude - 2 ^ b.exponent / 2 ≤ (Interval.ofBinary b).low / (Interval.ofBinary b).divisor ∧
      (Interval.ofBinary b).low / (Interval.ofBinary b).divisor ≤ b.magnitude - 2 ^ b.exponent / 4 := by
  obtain ⟨below, low_eq, one_le, le_two⟩ : ∃ below,
      (Interval.ofBinary b).low = (4 * b.mantissa - below) * 2 ^ (b.exponent - 2).toNat ∧ 1 ≤ below ∧ below ≤ 2 :=
    ⟨_, rfl, by split <;> omega, by split <;> omega⟩
  have low_eq' : ((Interval.ofBinary b).low / (Interval.ofBinary b).divisor : ℚ) =
      (4 * b.mantissa - below) * (2 ^ b.exponent / 4) := by
    rw [low_eq, ← scale_div_divisor, ← mul_div_assoc, Nat.cast_mul, Nat.cast_sub (by omega)]
    push_cast
    rfl
  have unit_pos := two_zpow_pos b.exponent
  have one_le' : (1 : ℚ) ≤ below := by exact_mod_cast one_le
  have le_two' : (below : ℚ) ≤ 2 := by exact_mod_cast le_two
  rw [low_eq', Binary.magnitude]
  constructor <;> nlinarith

/-- A decimal in the interval is no more than half a unit away. -/
theorem near_of_contains (pos : 0 < b.mantissa) (inside : (Interval.ofBinary b).contains n k = true) :
    |(n * 10 ^ k : ℚ) - b.magnitude| ≤ 2 ^ b.exponent / 2 := by
  have low_le := (low_div_divisor_bounds pos).1
  have high_eq := high_div_divisor b
  rw [Interval.contains_iff (divisor_ofBinary_pos b)] at inside
  rw [abs_le]
  split at inside
  · constructor <;> linarith [inside.1, inside.2]
  · constructor <;> linarith [inside.1, inside.2]

/-- A decimal less than a quarter of a unit away is in the interval. -/
theorem contains_of_near (pos : 0 < b.mantissa) (near : |(n * 10 ^ k : ℚ) - b.magnitude| < 2 ^ b.exponent / 4) :
    (Interval.ofBinary b).contains n k = true := by
  have le_low := (low_div_divisor_bounds pos).2
  have high_eq := high_div_divisor b
  have unit_pos := two_zpow_pos b.exponent
  obtain ⟨below, above⟩ := abs_lt.mp near
  rw [Interval.contains_iff (divisor_ofBinary_pos b)]
  split
  · constructor <;> linarith
  · constructor <;> linarith

/-! ## Grids -/

/-- Of the two whole numbers next to a quotient, the one above is taken only if it is not further away, and the one below
only if that is not. -/
theorem nearer_of_two {m u : Nat} (upper : Bool) (above : upper = true → (2 * (m / u) + 1) * u ≤ 2 * m)
    (below : upper = false → 2 * m ≤ (2 * (m / u) + 1) * u) (pos : 0 < u) :
    |((if upper then m / u + 1 else m / u : Nat) : ℚ) - m / u| ≤ 1 / 2 := by
  have pos' : (0 : ℚ) < u := Nat.cast_pos.mpr pos
  have quotient_le := Nat.div_mul_le_self m u
  have lt_next := Nat.lt_div_mul_add pos (a := m)
  have odd_eq : (2 * (m / u) + 1) * u = 2 * (m / u * u) + u := by ring
  have next_eq : (m / u + 1) * u = m / u * u + u := Nat.succ_mul _ _
  rw [odd_eq] at above below
  have bounds : 2 * ((if upper then m / u + 1 else m / u) * u) ≤ 2 * m + u ∧
      2 * m ≤ 2 * ((if upper then m / u + 1 else m / u) * u) + u := by
    cases upper with
    | true =>
      have half := above rfl
      rw [if_pos rfl, next_eq]
      omega
    | false =>
      have half := below rfl
      rw [if_neg Bool.false_ne_true]
      omega
  generalize (if upper then m / u + 1 else m / u) = first at bounds ⊢
  have high : (2 * (first * u) : ℚ) ≤ 2 * m + u := by exact_mod_cast bounds.1
  have low : (2 * m : ℚ) ≤ 2 * (first * u) + u := by exact_mod_cast bounds.2
  rw [abs_le, neg_le_sub_iff_le_add, sub_le_iff_le_add, div_le_iff₀ pos', ← sub_le_iff_le_add', le_div_iff₀ pos']
  constructor <;> linarith

/-- A grid is searched at two points, the nearer one first. -/
theorem onGrid?_eq {i : Interval} (tie : Tie) (pos : 0 < i.divisor) (k : ℤ) : ∃ first second : Nat,
    |(first * 10 ^ k : ℚ) - i.middle / i.divisor| ≤ 10 ^ k / 2 ∧
    i.onGrid? tie k = if i.contains first k then some ⟨first, k⟩
      else if i.contains second k then some ⟨second, k⟩ else none := by
  have grid_pos : (0 : ℚ) < 10 ^ k := zpow_pos (by norm_num) k
  have middle_eq : (i.middle / i.divisor : ℚ) =
      ((i.middle * 10 ^ (-k).toNat : Nat) : ℚ) / (i.divisor * 10 ^ k.toNat : Nat) * 10 ^ k := by
    rw [zpow_eq_div 10 (by norm_num) k]
    push_cast
    field_simp
  refine ⟨_, _, ?_, rfl⟩
  rw [middle_eq, ← sub_mul, abs_mul, abs_of_pos grid_pos, div_eq_inv_mul (10 ^ k), ← one_div]
  apply mul_le_mul_of_nonneg_right _ grid_pos.le
  apply nearer_of_two
  · intro chosen
    split at chosen
    · next half => exact half.ge
    · exact (of_decide_eq_true chosen).le
  · intro refused
    split at refused
    · next half => exact half.le
    · exact not_lt.mp (of_decide_eq_false refused)
  · exact Nat.mul_pos pos (Nat.pow_pos (by norm_num))

theorem contains_of_onGrid? {tie : Tie} {s : Shortest} (found : (Interval.ofBinary b).onGrid? tie k = some s) :
    (Interval.ofBinary b).contains s.digits s.exponent = true := by
  obtain ⟨first, second, -, grid_eq⟩ := onGrid?_eq tie (divisor_ofBinary_pos b) k
  rw [grid_eq] at found
  split at found
  · next inside =>
    cases found
    exact inside
  · split at found
    · next inside =>
      cases found
      exact inside
    · cases found

/-- A grid that is finer than half a unit has a point in the interval. -/
theorem exists_onGrid?_of_fine (tie : Tie) (pos : 0 < b.mantissa) (fine : (10 : ℚ) ^ k < 2 ^ b.exponent / 2) :
    ∃ s, (Interval.ofBinary b).onGrid? tie k = some s := by
  obtain ⟨first, second, near, grid_eq⟩ := onGrid?_eq tie (divisor_ofBinary_pos b) k
  rw [middle_div_divisor] at near
  exact ⟨_, grid_eq.trans (if_pos (contains_of_near pos (near.trans_lt (by linarith))))⟩

/-! ## The finest grid -/

theorem ten_pow_log_le : ∀ n < 1100, 10 ^ (n * 30103 / 100000) ≤ 2 ^ (n + 1) := by
  decide +kernel

theorem two_pow_le_ten_pow_log : ∀ n < 1100, 2 ^ n ≤ 2 * 10 ^ ((n * 30103 + 99999) / 100000) := by
  decide +kernel

/-- The logarithm that the search starts from is next to the true one, as far as the exponents of floats go. -/
theorem ten_zpow_log_le {n : ℤ} (low : -1100 < n) (high : n < 1100) : (10 : ℚ) ^ (n * 30103 / 100000) ≤ 2 ^ (n + 1) := by
  obtain ⟨m, rfl | rfl⟩ := n.eq_nat_or_neg
  · have power_eq : (m : ℤ) * 30103 / 100000 = (m * 30103 / 100000 : Nat) := by omega
    rw [power_eq]
    exact_mod_cast ten_pow_log_le m (by omega)
  · have power_eq : -(m : ℤ) * 30103 / 100000 = -(((m * 30103 + 99999) / 100000 : Nat) : ℤ) := by omega
    have bound : (2 : ℚ) ^ m ≤ 2 * 10 ^ ((m * 30103 + 99999) / 100000) := by
      exact_mod_cast two_pow_le_ten_pow_log m (by omega)
    rw [power_eq, zpow_neg, zpow_natCast, zpow_add_one₀ two_ne_zero, zpow_neg, zpow_natCast, ← div_eq_inv_mul,
      inv_eq_one_div, div_le_div_iff₀ (by positivity) (by positivity), one_mul]
    exact bound

/-- The last grid that is tried is finer than half a unit. -/
theorem last_grid_lt (bounded : b.Bounded) : (10 : ℚ) ^ (leadingBound b - 20) < 2 ^ b.exponent / 2 := by
  obtain ⟨mantissa_lt, least, greatest⟩ := bounded
  have log_le : b.mantissa.log2 ≤ 52 := by
    rcases Nat.eq_zero_or_pos b.mantissa with zero | pos
    · simp [zero]
    · exact Nat.lt_succ_iff.mp ((Nat.log2_lt pos.ne').mpr mantissa_lt)
  have log_bound := ten_zpow_log_le (n := b.mantissa.log2 + b.exponent + 1) (by omega) (by omega)
  have grid_eq : leadingBound b - 20 = (b.mantissa.log2 + b.exponent + 1) * 30103 / 100000 + -19 := by
    unfold leadingBound
    omega
  rw [grid_eq, zpow_add₀ (by norm_num)]
  calc (10 : ℚ) ^ ((b.mantissa.log2 + b.exponent + 1) * 30103 / 100000) * 10 ^ (-19 : ℤ)
      ≤ 2 ^ (b.exponent + 54) * 10 ^ (-19 : ℤ) := by
        apply mul_le_mul_of_nonneg_right _ (by positivity)
        exact log_bound.trans (zpow_le_zpow_right₀ one_le_two (by omega))
    _ = 2 ^ b.exponent * (2 ^ (54 : ℤ) * 10 ^ (-19 : ℤ)) := by rw [two_zpow_add, mul_assoc]
    _ < 2 ^ b.exponent * (1 / 2) := mul_lt_mul_of_pos_left (by norm_num) (two_zpow_pos _)
    _ = 2 ^ b.exponent / 2 := by ring

/-- The decimal of a float is no more than half a unit of its last place away. -/
theorem shortest_near (tie : Tie) (bounded : b.Bounded) :
    |(shortest tie b).value - b.magnitude| ≤ 2 ^ b.exponent / 2 := by
  unfold shortest
  split
  · next zero =>
    rw [Shortest.value, Binary.magnitude, zero, Nat.cast_zero, zero_mul, zero_mul, sub_zero, abs_zero]
    exact div_nonneg (two_zpow_pos _).le zero_le_two
  · next nonzero =>
    have pos := Nat.pos_of_ne_zero nonzero
    obtain ⟨s, last⟩ := exists_onGrid?_of_fine tie pos (last_grid_lt bounded)
    have tried : ((List.range 21).findSome? fun i =>
        (Interval.ofBinary b).onGrid? tie (leadingBound b - (i : Nat))).isSome := by
      rw [List.findSome?_isSome_iff]
      exact ⟨20, by simp, by rw [Nat.cast_ofNat, last]; rfl⟩
    dsimp only
    split
    · next s found =>
      obtain ⟨i, -, on_grid⟩ := List.exists_of_findSome?_eq_some found
      rw [Shortest.dropZeros_value]
      exact near_of_contains pos (contains_of_onGrid? on_grid)
    · next none_found =>
      rw [none_found] at tried
      cases tried

end Interval

end ClusterCost.Decimal
