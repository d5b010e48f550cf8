import Mathlib.Algebra.Order.Floor.Ring
import Mathlib.Data.Int.Log
import Mathlib.Data.Rat.Floor
import Mathlib.Tactic.Linarith
import Mathlib.Tactic.NormNum
import Mathlib.Tactic.Positivity
import Mathlib.Tactic.Ring

/-!
# The nearest number with a mantissa of 53 bits

`nearest` rounds a rational number to 53 significant binary digits, a half to the even side, without a bound on the
exponent. It is odd (`nearest_neg`) and order-preserving (`nearest_mono`), and it leaves what needs no more digits as
it is (`nearest_of_short`), powers of two in particular, so it moves no number past one. It is off by no more than half
of the last digit (`nearest_error`).
-/
namespace ClusterCost.Binary64

/-! ## Rounding to a whole number -/

/-- Comparisons that agree in both strict orders agree. -/
theorem compare_congr {α β : Type} [LinearOrder α] [LinearOrder β] {a b : α} {c d : β} (lt_iff : a < b ↔ c < d)
    (gt_iff : b < a ↔ d < c) : compare a b = compare c d := by
  rcases lt_trichotomy c d with less | same | greater
  · rw [compare_lt_iff_lt.mpr less, compare_lt_iff_lt.mpr (lt_iff.mpr less)]
  · have not_less : ¬a < b := mt lt_iff.mp same.not_lt
    have not_greater : ¬b < a := mt gt_iff.mp same.not_gt
    rw [compare_eq_iff_eq.mpr same, compare_eq_iff_eq.mpr (le_antisymm (not_lt.mp not_greater) (not_lt.mp not_less))]
  · rw [compare_gt_iff_gt.mpr greater, compare_gt_iff_gt.mpr (gt_iff.mpr greater)]

/-- The whole number next to a rational number; a half goes to the even neighbour. -/
def roundEven (y : ℚ) : ℤ :=
  match compare (Int.fract y) (1 / 2) with
  | .lt => ⌊y⌋
  | .eq => ⌊y⌋ + ⌊y⌋ % 2
  | .gt => ⌊y⌋ + 1

theorem floor_le_roundEven (y : ℚ) : ⌊y⌋ ≤ roundEven y := by
  unfold roundEven
  split <;> omega

theorem roundEven_le_floor_add_one (y : ℚ) : roundEven y ≤ ⌊y⌋ + 1 := by
  unfold roundEven
  split <;> omega

theorem roundEven_intCast (n : ℤ) : roundEven n = n := by
  have below : compare (0 : ℚ) (1 / 2) = .lt := by rw [compare_lt_iff_lt]; norm_num
  unfold roundEven
  rw [Int.fract_intCast, Int.floor_intCast, below]

theorem roundEven_mono {a b : ℚ} (le : a ≤ b) : roundEven a ≤ roundEven b := by
  rcases (Int.floor_le_floor le).lt_or_eq with apart | together
  · calc roundEven a ≤ ⌊a⌋ + 1 := roundEven_le_floor_add_one a
      _ ≤ ⌊b⌋ := apart
      _ ≤ roundEven b := floor_le_roundEven b
  · have fract_le : Int.fract a ≤ Int.fract b := by
      unfold Int.fract
      rw [together]
      linarith
    unfold roundEven
    rw [together]
    split
    · split <;> omega
    · next half =>
      rw [compare_eq_iff_eq] at half
      split
      · next below =>
        rw [compare_lt_iff_lt] at below
        linarith
      · omega
      · omega
    · next above =>
      rw [compare_gt_iff_gt] at above
      split
      · next below =>
        rw [compare_lt_iff_lt] at below
        linarith
      · next half =>
        rw [compare_eq_iff_eq] at half
        linarith
      · omega

/-- Rounding to a whole number is off by no more than a half. -/
theorem abs_roundEven_sub_le (y : ℚ) : |roundEven y - y| ≤ 1 / 2 := by
  have low := Int.fract_nonneg y
  have high := Int.fract_lt_one y
  have sum := Int.floor_add_fract y
  unfold roundEven
  split
  · next below =>
    rw [compare_lt_iff_lt] at below
    rw [abs_le]
    constructor <;> linarith
  · next half =>
    rw [compare_eq_iff_eq] at half
    rcases Int.emod_two_eq_zero_or_one ⌊y⌋ with even | odd
    · rw [even, abs_le]
      push_cast
      constructor <;> linarith
    · rw [odd, abs_le]
      push_cast
      constructor <;> linarith
  · next above =>
    rw [compare_gt_iff_gt] at above
    rw [abs_le]
    push_cast
    constructor <;> linarith

/-- A half goes to the even neighbour, and so does what is less. -/
theorem roundEven_of_le_half {a : ℤ} {t : ℚ} (even : a % 2 = 0) (nonneg : 0 ≤ t) (small : t ≤ 1 / 2) :
    roundEven (a + t) = a := by
  have half : roundEven (a + 1 / 2) = a := by
    have floor_eq : ⌊(a + 1 / 2 : ℚ)⌋ = a := Int.floor_eq_iff.mpr ⟨by linarith, by linarith⟩
    have fract_eq : Int.fract (a + 1 / 2 : ℚ) = 1 / 2 := by
      rw [Int.fract, floor_eq, add_sub_cancel_left]
    unfold roundEven
    rw [fract_eq, floor_eq, compare_eq_iff_eq.mpr rfl]
    dsimp only
    omega
  have below : a ≤ roundEven (a + t) := by
    have mono := roundEven_mono (le_add_of_nonneg_right nonneg : (a : ℚ) ≤ a + t)
    rwa [roundEven_intCast] at mono
  have above : roundEven (a + t) ≤ a := by
    have mono := roundEven_mono (add_le_add_right small (a : ℚ))
    rwa [half] at mono
  exact le_antisymm above below

/-- What is more than a half goes at least one up. -/
theorem lt_roundEven_of_half_lt {a : ℤ} {t : ℚ} (large : 1 / 2 < t) : a < roundEven (a + t) := by
  have error := abs_le.mp (abs_roundEven_sub_le (a + t))
  have above : (a : ℚ) < roundEven (a + t) := by linarith
  exact_mod_cast above

/-- Between two whole numbers the negation has the next lower floor. -/
theorem floor_neg_of_fract_ne_zero {y : ℚ} (between : Int.fract y ≠ 0) : ⌊-y⌋ = -⌊y⌋ - 1 := by
  have split_fract := Int.fract_neg between
  have sum := Int.floor_add_fract (-y)
  have sum' := Int.floor_add_fract y
  have same : ((⌊-y⌋ : ℤ) : ℚ) = ((-⌊y⌋ - 1 : ℤ) : ℚ) := by
    push_cast
    linarith
  exact_mod_cast same

theorem compare_one_sub (y : ℚ) : compare (1 - y) (1 / 2) = (compare y (1 / 2)).swap := by
  rw [← Std.OrientedOrd.eq_swap]
  apply compare_congr
  · rw [sub_lt_comm]
    norm_num
  · rw [lt_sub_comm]
    norm_num

theorem roundEven_neg (y : ℚ) : roundEven (-y) = -roundEven y := by
  by_cases whole : Int.fract y = 0
  · obtain ⟨n, rfl⟩ := Int.fract_eq_zero_iff.mp whole
    rw [← Int.cast_neg, roundEven_intCast, roundEven_intCast]
  · unfold roundEven
    rw [floor_neg_of_fract_ne_zero whole, Int.fract_neg whole, compare_one_sub]
    cases compare (Int.fract y) (1 / 2) with
    | lt =>
      dsimp only [Ordering.swap]
      omega
    | eq =>
      dsimp only [Ordering.swap]
      omega
    | gt =>
      dsimp only [Ordering.swap]
      omega

/-! ## Rounding to a mantissa -/

/-- The power of two that the last of 53 significant digits stands for. -/
def exponent (x : ℚ) : ℤ :=
  Int.log 2 |x| - 52

/-- The nearest number with 53 significant digits. -/
def nearest (x : ℚ) : ℚ :=
  roundEven (x / 2 ^ exponent x) * 2 ^ exponent x

theorem exponent_neg (x : ℚ) : exponent (-x) = exponent x := by
  rw [exponent, abs_neg, exponent]

theorem two_zpow_pos (e : ℤ) : (0 : ℚ) < 2 ^ e :=
  zpow_pos (by norm_num) e

theorem two_zpow_add (d e : ℤ) : (2 : ℚ) ^ (d + e) = 2 ^ d * 2 ^ e :=
  zpow_add₀ (by norm_num) d e

/-- The exponent is chosen so that a mantissa has 53 digits before the point. -/
theorem mantissa_bounds {x : ℚ} (pos : 0 < x) : 2 ^ 52 ≤ x / 2 ^ exponent x ∧ x / 2 ^ exponent x < 2 ^ 53 := by
  have low := Int.zpow_log_le_self (b := 2) (by norm_num) pos
  have high := Int.lt_zpow_succ_log_self (b := 2) (by norm_num) x
  have log_eq : Int.log 2 x = 52 + exponent x := by
    rw [exponent, abs_of_pos pos]
    omega
  have next_eq : Int.log 2 x + 1 = 53 + exponent x := by omega
  rw [next_eq, Nat.cast_ofNat, two_zpow_add] at high
  rw [log_eq, Nat.cast_ofNat, two_zpow_add] at low
  rw [le_div_iff₀ (two_zpow_pos _), div_lt_iff₀ (two_zpow_pos _)]
  exact ⟨by exact_mod_cast low, by exact_mod_cast high⟩

theorem roundEven_mantissa_bounds {x : ℚ} (pos : 0 < x) :
    2 ^ 52 ≤ roundEven (x / 2 ^ exponent x) ∧ roundEven (x / 2 ^ exponent x) ≤ 2 ^ 53 := by
  obtain ⟨low, high⟩ := mantissa_bounds pos
  have below := roundEven_mono (a := ((2 ^ 52 : ℤ) : ℚ)) (by exact_mod_cast low)
  have above := roundEven_mono (b := ((2 ^ 53 : ℤ) : ℚ)) (by exact_mod_cast high.le)
  rw [roundEven_intCast] at below above
  exact ⟨below, above⟩

/-- Positive numbers are told apart by their exponents: a smaller exponent means a smaller number. -/
theorem exponent_mono {x y : ℚ} (pos : 0 < x) (le : x ≤ y) : exponent x ≤ exponent y := by
  have logs := Int.log_mono_right (b := 2) pos le
  rw [exponent, exponent, abs_of_pos pos, abs_of_pos (pos.trans_le le)]
  omega

theorem nearest_zero : nearest 0 = 0 := by
  have round_zero := roundEven_intCast 0
  rw [Int.cast_zero] at round_zero
  rw [nearest, zero_div, round_zero, Int.cast_zero, zero_mul]

theorem nearest_neg (x : ℚ) : nearest (-x) = -nearest x := by
  rw [nearest, nearest, exponent_neg, neg_div, roundEven_neg, Int.cast_neg, neg_mul]

theorem nearest_pos {x : ℚ} (pos : 0 < x) : 0 < nearest x := by
  have mantissa_pos : (0 : ℤ) < roundEven (x / 2 ^ exponent x) := by
    have low := (roundEven_mantissa_bounds pos).1
    omega
  exact mul_pos (Int.cast_pos.mpr mantissa_pos) (two_zpow_pos _)

/-- What needs no more than 53 digits stays as it is. -/
theorem nearest_of_short {n : ℤ} {x : ℚ} (short : x = n * 2 ^ exponent x) : nearest x = x := by
  have mantissa_eq : x / 2 ^ exponent x = n := by
    rw [div_eq_iff (two_zpow_pos _).ne']
    exact short
  rw [nearest, mantissa_eq, roundEven_intCast]
  exact short.symm

theorem exponent_of_bounds {x : ℚ} {e : ℤ} (low : 2 ^ (52 + e) ≤ x) (high : x < 2 ^ (53 + e)) : exponent x = e := by
  have pos : 0 < x := (two_zpow_pos _).trans_le low
  have below := (Int.zpow_le_iff_le_log (b := 2) (by norm_num) pos).mp (by exact_mod_cast low)
  have above := (Int.lt_zpow_iff_log_lt (b := 2) (by norm_num) pos).mp (by exact_mod_cast high)
  rw [exponent, abs_of_pos pos]
  omega

theorem nearest_two_zpow (e : ℤ) : nearest (2 ^ e) = 2 ^ e := by
  have exponent_eq : exponent (2 ^ e) = e - 52 := by
    apply exponent_of_bounds
    · rw [show 52 + (e - 52) = e by omega]
    · exact zpow_lt_zpow_right₀ (by norm_num) (by omega)
  apply nearest_of_short (n := 2 ^ 52)
  rw [exponent_eq, Int.cast_pow, Int.cast_ofNat, ← zpow_natCast, ← two_zpow_add]
  congr 1
  omega

/-- Whole numbers of at most 53 digits stay as they are. -/
theorem nearest_natCast {n : ℕ} (small : n < 2 ^ 53) : nearest n = n := by
  rcases Nat.eq_zero_or_pos n with rfl | pos
  · exact nearest_zero
  · have pos' : (0 : ℚ) < n := Nat.cast_pos.mpr pos
    have log_lt : Int.log 2 (n : ℚ) < 53 :=
      (Int.lt_zpow_iff_log_lt (b := 2) (by norm_num) pos').mp (by exact_mod_cast small)
    have power : (2 : ℚ) ^ (-exponent n).toNat * 2 ^ exponent n = 1 := by
      rw [← zpow_natCast, ← two_zpow_add]
      have cancelled : ((-exponent n).toNat : ℤ) + exponent n = 0 := by
        rw [exponent, abs_of_pos pos']
        omega
      rw [cancelled, zpow_zero]
    apply nearest_of_short (n := n * 2 ^ (-exponent n).toNat)
    push_cast
    rw [mul_assoc, power, mul_one]

/-- Scaling by a power of two keeps the digits. -/
theorem nearest_mul_two_pow {x : ℚ} (pos : 0 < x) (k : ℕ) : nearest (x * 2 ^ k) = nearest x * 2 ^ k := by
  obtain ⟨low, high⟩ := mantissa_bounds pos
  rw [le_div_iff₀ (two_zpow_pos _)] at low
  rw [div_lt_iff₀ (two_zpow_pos _)] at high
  have power_pos : (0 : ℚ) < 2 ^ k := by positivity
  have exponent_eq : exponent (x * 2 ^ k) = exponent x + k := by
    apply exponent_of_bounds
    · rw [← add_assoc, two_zpow_add, two_zpow_add, zpow_natCast]
      exact mul_le_mul_of_nonneg_right (by exact_mod_cast low) power_pos.le
    · rw [← add_assoc, two_zpow_add, two_zpow_add, zpow_natCast]
      exact mul_lt_mul_of_pos_right (by exact_mod_cast high) power_pos
  rw [nearest, exponent_eq, two_zpow_add, zpow_natCast, mul_div_mul_right _ _ power_pos.ne', ← mul_assoc, nearest]

theorem nearest_mono_of_pos {x y : ℚ} (pos : 0 < x) (le : x ≤ y) : nearest x ≤ nearest y := by
  rcases (exponent_mono pos le).lt_or_eq with apart | together
  · -- A power of two separates the two numbers, and rounding moves neither of them past it.
    have below : (roundEven (x / 2 ^ exponent x) : ℚ) ≤ 2 ^ (53 : ℤ) := by
      exact_mod_cast (roundEven_mantissa_bounds pos).2
    have above : (2 : ℚ) ^ (52 : ℤ) ≤ roundEven (y / 2 ^ exponent y) := by
      exact_mod_cast (roundEven_mantissa_bounds (pos.trans_le le)).1
    calc nearest x ≤ 2 ^ (53 : ℤ) * 2 ^ exponent x := mul_le_mul_of_nonneg_right below (two_zpow_pos _).le
      _ = 2 ^ (53 + exponent x) := (two_zpow_add _ _).symm
      _ ≤ 2 ^ (52 + exponent y) := zpow_le_zpow_right₀ (by norm_num) (by omega)
      _ = 2 ^ (52 : ℤ) * 2 ^ exponent y := two_zpow_add _ _
      _ ≤ nearest y := mul_le_mul_of_nonneg_right above (two_zpow_pos _).le
  · have mantissas : x / 2 ^ exponent x ≤ y / 2 ^ exponent x := (div_le_div_iff_of_pos_right (two_zpow_pos _)).mpr le
    rw [nearest, nearest, ← together]
    exact mul_le_mul_of_nonneg_right (by exact_mod_cast roundEven_mono mantissas) (two_zpow_pos _).le

/-- Rounding keeps the order of all numbers. -/
theorem nearest_mono {x y : ℚ} (le : x ≤ y) : nearest x ≤ nearest y := by
  rcases lt_trichotomy x 0 with neg | rfl | pos
  · rcases lt_trichotomy y 0 with neg' | rfl | pos'
    · have swapped := nearest_mono_of_pos (neg_pos.mpr neg') (neg_le_neg le)
      rw [nearest_neg, nearest_neg] at swapped
      exact neg_le_neg_iff.mp swapped
    · have sign := nearest_pos (neg_pos.mpr neg)
      rw [nearest_neg] at sign
      rw [nearest_zero]
      linarith
    · have sign := nearest_pos (neg_pos.mpr neg)
      have sign' := nearest_pos pos'
      rw [nearest_neg] at sign
      linarith
  · rcases le.lt_or_eq with pos' | rfl
    · rw [nearest_zero]
      exact (nearest_pos pos').le
    · exact le_refl _
  · exact nearest_mono_of_pos pos le

theorem nearest_eq_zero_iff {x : ℚ} : nearest x = 0 ↔ x = 0 := by
  constructor
  · intro zero
    rcases lt_trichotomy x 0 with neg | same | pos
    · have sign := nearest_pos (neg_pos.mpr neg)
      rw [nearest_neg] at sign
      linarith
    · exact same
    · exact absurd zero (nearest_pos pos).ne'
  · rintro rfl
    exact nearest_zero

/-- Rounding moves no number down past a power of two. -/
theorem two_zpow_le_nearest {e : ℤ} {x : ℚ} (le : 2 ^ e ≤ x) : 2 ^ e ≤ nearest x := by
  have rounded := nearest_mono le
  rw [nearest_two_zpow] at rounded
  exact rounded

/-- Rounding moves no number up past a power of two. -/
theorem nearest_le_two_zpow {e : ℤ} {x : ℚ} (le : x ≤ 2 ^ e) : nearest x ≤ 2 ^ e := by
  have rounded := nearest_mono le
  rw [nearest_two_zpow] at rounded
  exact rounded

theorem one_le_nearest {x : ℚ} (one_le : 1 ≤ x) : 1 ≤ nearest x := by
  have power_le := two_zpow_le_nearest (e := 0) (zpow_zero (2 : ℚ) ▸ one_le)
  rw [zpow_zero] at power_le
  exact power_le

theorem abs_nearest (x : ℚ) : |nearest x| = nearest |x| := by
  rcases lt_trichotomy x 0 with neg | rfl | pos
  · have opposite := nearest_pos (neg_pos.mpr neg)
    rw [abs_of_neg neg, ← abs_of_pos opposite, nearest_neg, abs_neg]
  · rw [abs_zero, nearest_zero, abs_zero]
  · rw [abs_of_pos pos, abs_of_pos (nearest_pos pos)]

/-- Rounding to 53 digits is off by no more than half of the last digit. -/
theorem nearest_error (x : ℚ) : |nearest x - x| ≤ |x| / 2 ^ 53 := by
  rcases eq_or_ne x 0 with rfl | nonzero
  · simp [nearest_zero]
  have unit_pos := two_zpow_pos (exponent x)
  have unit_le : 2 ^ 52 * (2 : ℚ) ^ exponent x ≤ |x| := by
    have low := (mantissa_bounds (abs_pos.mpr nonzero)).1
    rw [le_div_iff₀ (two_zpow_pos _)] at low
    rw [exponent, abs_abs] at low
    exact low
  have scaled : nearest x - x = (roundEven (x / 2 ^ exponent x) - x / 2 ^ exponent x) * 2 ^ exponent x := by
    rw [sub_mul, div_mul_cancel₀ _ unit_pos.ne', nearest]
  calc |nearest x - x| = |roundEven (x / 2 ^ exponent x) - x / 2 ^ exponent x| * 2 ^ exponent x := by
        rw [scaled, abs_mul, abs_of_pos unit_pos]
    _ ≤ 1 / 2 * 2 ^ exponent x := mul_le_mul_of_nonneg_right (abs_roundEven_sub_le _) unit_pos.le
    _ ≤ |x| / 2 ^ 53 := by
        rw [le_div_iff₀ (by norm_num)]
        linarith

end ClusterCost.Binary64
