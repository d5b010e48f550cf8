import ClusterCost.Json.Number
import ClusterCost.Proofs.Binary64.Near
import ClusterCost.Proofs.Binary64.Whole
import ClusterCost.Proofs.Text.Digits

/-!
# The floats of number tokens

A token's float is made of the leading digits that fit 64 bits and of the power of ten that is left. The digits that are
taken are within one of the last of them of all the digits (`take_bracket`). The power is multiplied or divided in, each
step rounded as floats are, so the float denotes `Numeral.value`, or is beyond the finite floats (`magnitude?_spec`).

As long as no more than the 307th power of ten is divided out, no digits are lost near zero, and the value is near the
number that the token denotes (`near_value`).
-/
namespace ClusterCost.Json

open Binary64
open Text (Digits)

/-! ## Digits and a power of ten -/

/-- What floats make of a number that is divided by a power of ten: one division after the other, as long as the fuel
lasts. -/
def dividedValue : Nat → ℚ → Nat → ℚ
  | 0, _, _ => 0
  | fuel + 1, x, power =>
    if power ≤ 308 then gradual (x / nearest (10 ^ power))
    else dividedValue fuel (gradual (x / nearest (10 ^ 308))) (power - 308)

def scaledValue (digits : Nat) (power : Int) : ℚ :=
  if power < 0 then dividedValue 3 (nearest digits) power.natAbs
  else nearest (nearest digits * nearest (10 ^ power.natAbs))

theorem ten_pow_pos (k : Nat) : (0 : ℚ) < 10 ^ k := by positivity

theorem nearest_natCast_bounds {m : Nat} (pos : 0 < m) (small : m ≤ maxUnsigned) :
    1 ≤ nearest (m : ℚ) ∧ nearest (m : ℚ) ≤ 2 ^ (64 : ℤ) := by
  have word : (m : ℚ) ≤ 2 ^ (64 : ℤ) := by
    have within : m ≤ 2 ^ 64 := small.trans (by decide)
    exact_mod_cast within
  exact ⟨one_le_nearest (by exact_mod_cast pos), nearest_le_two_zpow word⟩

theorem nearest_natCast_le {m : Nat} (small : m ≤ maxUnsigned) : nearest (m : ℚ) ≤ 2 ^ (64 : ℤ) := by
  rcases Nat.eq_zero_or_pos m with rfl | pos
  · rw [Nat.cast_zero, nearest_zero]
    exact (two_zpow_pos 64).le
  · exact (nearest_natCast_bounds pos small).2

theorem one_le_nearest_tenPow (k : Nat) : 1 ≤ nearest (10 ^ k) :=
  one_le_nearest (one_le_pow₀ (by norm_num))

theorem nearest_tenPow_pos (k : Nat) : 0 < nearest (10 ^ k) :=
  zero_lt_one.trans_le (one_le_nearest_tenPow k)

theorem nearest_tenPow_le {k : Nat} (bounded : k ≤ 307) : nearest (10 ^ k) ≤ 2 ^ (1020 : ℤ) := by
  apply nearest_le_two_zpow
  calc (10 : ℚ) ^ k ≤ 10 ^ 307 := pow_le_pow_right₀ (by norm_num) bounded
    _ ≤ 2 ^ (1020 : ℤ) := by exact_mod_cast (by decide +kernel : 10 ^ 307 ≤ 2 ^ 1020)

theorem denotes_digits {m : Nat} (small : m ≤ maxUnsigned) : Denotes (Float.ofNat m) (nearest m) := by
  apply denotes_ofNat
  rcases Nat.eq_zero_or_pos m with zero | pos
  · exact .inl zero
  · exact .inr (inRange_natCast pos (small.trans (by decide)))

/-! ## Divisions -/

theorem dividedValue_zero (fuel power : Nat) : dividedValue fuel 0 power = 0 := by
  induction fuel generalizing power with
  | zero => rfl
  | succ fuel ih =>
    unfold dividedValue
    split
    · rw [zero_div, gradual_zero]
    · rw [zero_div, gradual_zero]
      exact ih _

/-- A division by a power of ten keeps a number between zero and a power of two that is a float. -/
theorem gradual_div_tenPow_bounds {x : ℚ} {e : ℤ} (nonneg : 0 ≤ x) (le : x ≤ 2 ^ e) (least : -1074 ≤ e) (k : Nat) :
    0 ≤ gradual (x / nearest (10 ^ k)) ∧ gradual (x / nearest (10 ^ k)) ≤ 2 ^ e := by
  have power_pos := nearest_tenPow_pos k
  refine ⟨gradual_nonneg (div_nonneg nonneg power_pos.le), ?_⟩
  rcases nonneg.eq_or_lt with rfl | pos
  · rw [zero_div, gradual_zero]
    exact (two_zpow_pos e).le
  · exact gradual_le_two_zpow (div_pos pos power_pos) ((div_le_self nonneg (one_le_nearest_tenPow k)).trans le) least

theorem dividedValue_bounds {fuel : Nat} {x : ℚ} {e : ℤ} (nonneg : 0 ≤ x) (le : x ≤ 2 ^ e) (least : -1074 ≤ e)
    (power : Nat) : 0 ≤ dividedValue fuel x power ∧ dividedValue fuel x power ≤ 2 ^ e := by
  induction fuel generalizing x power with
  | zero => exact ⟨le_refl 0, (two_zpow_pos e).le⟩
  | succ fuel ih =>
    unfold dividedValue
    split
    · exact gradual_div_tenPow_bounds nonneg le least power
    · obtain ⟨nonneg', le'⟩ := gradual_div_tenPow_bounds nonneg le least 308
      exact ih nonneg' le' _

/-- The divisions denote what they make of a number, zero included. -/
theorem denotes_scaleDown {fuel : Nat} {x : Float} {q : ℚ} (denotes : Denotes x q) (nonneg : 0 ≤ q)
    (le : q ≤ 2 ^ (1023 : ℤ)) (power : Nat) : Denotes (scaleDown fuel x power) (dividedValue fuel q power) := by
  induction fuel generalizing x q power with
  | zero =>
    have zero_eq : (0.0 : Float) = Float.ofNat 0 := by decide +kernel
    unfold scaleDown dividedValue
    rw [zero_eq]
    exact denotes_zero
  | succ fuel ih =>
    have quotient {k : Nat} (bounded : k ≤ 308) : Denotes (x / powerOfTen k) (gradual (q / nearest (10 ^ k))) :=
      denotes.div_gradual (denotes_powerOfTen bounded) nonneg (nearest_tenPow_pos k)
        ((div_le_self nonneg (one_le_nearest_tenPow k)).trans le)
    unfold scaleDown dividedValue
    split
    · next bounded => exact quotient bounded
    · split
      · next zero =>
        obtain rfl := denotes.beq_zero_iff.mp zero
        rw [zero_div, gradual_zero, dividedValue_zero]
        exact denotes
      · obtain ⟨nonneg', le'⟩ := gradual_div_tenPow_bounds nonneg le (by norm_num) 308
        exact ih (quotient (le_refl _)) nonneg' le' _

/-- What is left when the fuel runs out is zero. -/
theorem dividedValue_of_large {fuel power : Nat} (x : ℚ) (large : fuel * 308 < power) :
    dividedValue fuel x power = 0 := by
  induction fuel generalizing x power with
  | zero => rfl
  | succ fuel ih =>
    rw [Nat.succ_mul] at large
    unfold dividedValue
    rw [if_neg (not_le.mpr ((Nat.le_add_left 308 _).trans_lt large))]
    exact ih _ (Nat.lt_sub_iff_add_lt.mpr large)

/-! ## Products and quotients -/

theorem scaledValue_zero (power : Int) : scaledValue 0 power = 0 := by
  unfold scaledValue
  rw [Nat.cast_zero, nearest_zero, dividedValue_zero, zero_mul, nearest_zero, ite_self]

section Scaled

variable {m : Nat} {power : Int}

theorem scaled_of_neg (small : m ≤ maxUnsigned) (negative : power < 0) :
    ∃ x, scaled m power = some x ∧ Denotes x (scaledValue m power) := by
  unfold scaled scaledValue
  rw [if_pos negative, if_pos negative]
  have le := (nearest_natCast_le small).trans (zpow_le_zpow_right₀ (by norm_num) (by norm_num) : (2 : ℚ) ^ (64 : ℤ) ≤ 2 ^ (1023 : ℤ))
  exact ⟨_, rfl, denotes_scaleDown (denotes_digits small) (nearest_nonneg (Nat.cast_nonneg m)) le _⟩

/-- Powers that are low enough all make zero. -/
theorem scaled_of_low {power' : Int} (small : m ≤ maxUnsigned) (low : power < -924) (low' : power' < -924) :
    scaled m power = scaled m power' := by
  have nothing {e : Int} (e_low : e < -924) : scaledValue m e = 0 := by
    rw [scaledValue, if_pos (by omega)]
    exact dividedValue_of_large _ (by omega)
  obtain ⟨x, found, denotes⟩ := scaled_of_neg small (by omega : power < 0)
  obtain ⟨x', found', denotes'⟩ := scaled_of_neg small (by omega : power' < 0)
  rw [nothing low] at denotes
  rw [nothing low'] at denotes'
  rw [found, found', denotes.unique denotes']

/-- Zero stays zero, whatever the power. -/
theorem scaled_zero (power : Int) : scaled 0 power = some (Float.ofNat 0) := by
  by_cases negative : power < 0
  · obtain ⟨x, found, denotes⟩ := scaled_of_neg (Nat.zero_le maxUnsigned) negative
    rw [scaledValue_zero] at denotes
    rw [found, denotes.unique denotes_zero]
  · unfold scaled
    dsimp only
    rw [if_neg negative]
    split
    · rfl
    · next bounded =>
      have product := denotes_zero.zero_mul (denotes_powerOfTen (k := power.toNat) (by omega)) (nearest_tenPow_pos _)
      have same := product.unique denotes_zero
      unfold powerOfTen
      rw [same, if_pos denotes_zero.isFinite]

/-- Down to the 307th power of ten a quotient loses no digits. -/
theorem least_le_quotient (pos : 0 < m) {k : Nat} (bounded : k ≤ 307) :
    2 ^ (-1022 : ℤ) ≤ nearest m / nearest (10 ^ k) := by
  have one_le : 1 ≤ nearest (m : ℚ) := one_le_nearest (by exact_mod_cast pos)
  rw [le_div_iff₀ (nearest_tenPow_pos k)]
  calc (2 : ℚ) ^ (-1022 : ℤ) * nearest (10 ^ k) ≤ 2 ^ (-1022 : ℤ) * 2 ^ (1020 : ℤ) :=
        mul_le_mul_of_nonneg_left (nearest_tenPow_le bounded) (two_zpow_pos _).le
    _ = 2 ^ (-2 : ℤ) := (two_zpow_add _ _).symm
    _ ≤ 1 := zpow_le_one_of_nonpos₀ (by norm_num) (by norm_num)
    _ ≤ nearest m := one_le

theorem scaledValue_of_neg (low : -307 ≤ power) (negative : power < 0) :
    scaledValue m power = nearest (nearest m / nearest (10 ^ power.natAbs)) := by
  rcases Nat.eq_zero_or_pos m with rfl | pos
  · rw [scaledValue_zero, Nat.cast_zero, nearest_zero, zero_div, nearest_zero]
  · have least := least_le_quotient pos (by omega : power.natAbs ≤ 307)
    rw [scaledValue, if_pos negative, dividedValue, if_pos (by omega)]
    apply gradual_of_least
    rw [abs_of_pos ((two_zpow_pos _).trans_le least)]
    exact least

theorem least_le_scaledValue (pos : 0 < m) (low : -307 ≤ power) : 2 ^ (-1022 : ℤ) ≤ scaledValue m power := by
  by_cases negative : power < 0
  · rw [scaledValue_of_neg low negative]
    exact two_zpow_le_nearest (least_le_quotient pos (by omega))
  · have one_le : 1 ≤ nearest (m : ℚ) := one_le_nearest (by exact_mod_cast pos)
    rw [scaledValue, if_neg negative]
    exact (zpow_le_one_of_nonpos₀ (by norm_num) (by norm_num)).trans
      (one_le_nearest (one_le_mul_of_one_le_of_one_le one_le (one_le_nearest_tenPow _)))

theorem scaled_of_nonneg (pos : 0 < m) (small : m ≤ maxUnsigned) (nonneg : 0 ≤ power) (bounded : power ≤ 308) :
    (∃ x, scaled m power = some x ∧ Denotes x (scaledValue m power)) ∨
      scaled m power = none ∧ 2 ^ (1023 : ℤ) ≤ scaledValue m power := by
  have abs_eq : power.natAbs = power.toNat := by omega
  obtain ⟨one_le, -⟩ := nearest_natCast_bounds pos small
  have one_le_power := one_le_nearest_tenPow power.toNat
  have product_nonneg : 0 ≤ nearest m * nearest (10 ^ power.toNat) :=
    mul_nonneg (zero_le_one.trans one_le) (zero_le_one.trans one_le_power)
  have least : (2 : ℚ) ^ (-1022 : ℤ) ≤ |nearest m * nearest (10 ^ power.toNat)| := by
    rw [abs_of_nonneg product_nonneg]
    have one_le_product := one_le_mul_of_one_le_of_one_le one_le one_le_power
    exact (zpow_le_one_of_nonpos₀ (by norm_num) (by norm_num)).trans one_le_product
  have product := (denotes_digits small).mul_or_infinite (denotes_powerOfTen (k := power.toNat) (by omega)) least
  unfold scaled scaledValue
  rw [if_neg (not_lt.mpr nonneg), if_neg (not_lt.mpr bounded), if_neg (not_lt.mpr nonneg), abs_eq]
  rcases product with denotes | ⟨large, infinite⟩
  · refine .inl ⟨_, if_pos ?_, denotes⟩
    exact denotes.isFinite
  · refine .inr ⟨if_neg ?_, ?_⟩
    · exact Bool.not_eq_true _ ▸ infinite.isFinite
    · rw [abs_of_nonneg product_nonneg] at large
      exact two_zpow_le_nearest large.le

theorem scaled_of_large (pos : 0 < m) (small : m ≤ maxUnsigned) (large : 308 < power) : scaled m power = none := by
  have nonzero : ¬(Float.ofNat m == 0.0) = true := by
    rw [(denotes_digits small).beq_zero_iff]
    exact (nearest_pos (Nat.cast_pos.mpr pos)).ne'
  unfold scaled
  rw [if_neg (by omega), if_pos large, if_neg nonzero]

theorem le_scaledValue_of_large (pos : 0 < m) (small : m ≤ maxUnsigned) (large : 308 < power) :
    2 ^ (1023 : ℤ) ≤ scaledValue m power := by
  have ten_pow_le : (2 : ℚ) ^ (1023 : ℤ) ≤ 10 ^ power.natAbs :=
    calc (2 : ℚ) ^ (1023 : ℤ) ≤ 10 ^ 309 := by exact_mod_cast (by decide +kernel : 2 ^ 1023 ≤ 10 ^ 309)
      _ ≤ 10 ^ power.natAbs := pow_le_pow_right₀ (by norm_num) (by omega)
  have power_le := two_zpow_le_nearest ten_pow_le
  have one_le := (nearest_natCast_bounds pos small).1
  rw [scaledValue, if_neg (by omega)]
  exact two_zpow_le_nearest (power_le.trans (le_mul_of_one_le_left ((two_zpow_pos _).le.trans power_le) one_le))

/-- Digits times a power of ten denote what floats make of them, or they are beyond the finite floats. -/
theorem scaled_of_pos (pos : 0 < m) (small : m ≤ maxUnsigned) :
    (∃ x, scaled m power = some x ∧ Denotes x (scaledValue m power)) ∨
      scaled m power = none ∧ 2 ^ (1023 : ℤ) ≤ scaledValue m power := by
  by_cases negative : power < 0
  · exact .inl (scaled_of_neg small negative)
  · by_cases bounded : power ≤ 308
    · exact scaled_of_nonneg pos small (not_lt.mp negative) bounded
    · exact .inr ⟨scaled_of_large pos small (not_le.mp bounded), le_scaledValue_of_large pos small (not_le.mp bounded)⟩

end Scaled

theorem ten_zpow_of_neg {power : Int} (negative : power < 0) : (10 : ℚ) ^ power = (10 ^ power.natAbs)⁻¹ := by
  rw [← zpow_natCast, ← zpow_neg]
  congr 1
  omega

/-- Three roundings are between the digits times the power and what floats make of them. -/
theorem near_scaledValue (m : Nat) {power : Int} (low : -307 ≤ power) :
    Near (roundoff * (roundoff * roundoff)) (scaledValue m power) (m * 10 ^ power) := by
  have digits := near_nearest (Nat.cast_nonneg (α := ℚ) m)
  have ten_pow := near_nearest (ten_pow_pos power.natAbs).le
  have both_nonneg := mul_nonneg roundoff_nonneg roundoff_nonneg
  by_cases negative : power < 0
  · have quotient := digits.div ten_pow (nearest_tenPow_pos _) (ten_pow_pos _)
    rw [scaledValue_of_neg low negative, ten_zpow_of_neg negative, ← div_eq_mul_inv]
    exact (near_nearest quotient.left_nonneg).trans quotient roundoff_nonneg both_nonneg
  · have power_eq : (10 : ℚ) ^ power = 10 ^ power.natAbs := by
      rw [← zpow_natCast]
      congr 1
      omega
    have product := digits.mul ten_pow
    rw [scaledValue, if_neg negative, power_eq]
    exact (near_nearest product.left_nonneg).trans product roundoff_nonneg both_nonneg

/-! ## Leading digits -/

/-- The digits that are taken, followed by as many zeros as there are digits left out, are within one of the last digit
taken of all the digits. Digits are left out only where there is no room for one more. -/
theorem take_bracket {cs : List Char} (digits : ∀ c ∈ cs, c.isDigit = true) {start : Nat}
    (small : start ≤ maxUnsigned) :
    let s := Significand.take start cs
    let all := start * 10 ^ cs.length + Text.placeValue cs
    s.digits ≤ maxUnsigned ∧ s.dropped ≤ cs.length ∧ s.digits * 10 ^ s.dropped ≤ all ∧
      all < (s.digits + 1) * 10 ^ s.dropped ∧ (s.dropped = 0 ∨ maxUnsigned < 10 * s.digits + 10) := by
  -- A digit that is taken becomes part of the start of the rest, so the induction is for all starts.
  induction cs generalizing start with
  | nil => simp [Significand.take, Text.placeValue, small]
  | cons c cs ih =>
    have value_lt := Text.placeValue_lt digits
    have digit_le := Text.digitNumber_le (digits c List.mem_cons_self)
    have next_eq : 10 * start + (c.toNat - '0'.toNat) = 10 * start + Text.digitNumber c := rfl
    intro s all
    simp only [s, Significand.take, next_eq]
    split
    · next room =>
      have taken := ih (fun d member => digits d (List.mem_cons_of_mem _ member)) room
      have all_eq : (10 * start + Text.digitNumber c) * 10 ^ cs.length + Text.placeValue cs = all := by
        simp only [all, Text.placeValue, List.length_cons, Nat.pow_succ]
        ring
      rw [all_eq] at taken
      obtain ⟨bounded, dropped_le, low, high, full⟩ := taken
      exact ⟨bounded, by rw [List.length_cons]; omega, low, high, full⟩
    · next full =>
      refine ⟨small, le_refl _, Nat.le_add_right _ _, ?_, .inr ?_⟩
      · rw [Nat.add_mul, Nat.one_mul]
        exact Nat.add_lt_add_left value_lt _
      · dsimp only
        omega

/-- The factor by which the digits that are left out can change a number. -/
def leftOut : ℚ :=
  1 + 1 / 2 ^ 60

theorem leftOut_nonneg : 0 ≤ leftOut := by
  unfold leftOut
  norm_num

/-- Numbers within one unit are near each other if there are many units in them. -/
theorem near_of_bracket {d : Nat} {u x y : ℚ} (large : 2 ^ 60 ≤ d) (unit_nonneg : 0 ≤ u) (low : d * u ≤ x)
    (high : x ≤ (d + 1) * u) (low' : d * u ≤ y) (high' : y ≤ (d + 1) * u) : Near leftOut x y := by
  have large' : (2 : ℚ) ^ 60 ≤ d := by exact_mod_cast large
  have units_nonneg : 0 ≤ d * u := mul_nonneg (Nat.cast_nonneg d) unit_nonneg
  have unit_le : u ≤ 1 / 2 ^ 60 * (d * u) := by
    have many := mul_le_mul_of_nonneg_right large' unit_nonneg
    rw [div_mul_eq_mul_div, one_mul, le_div_iff₀ (by norm_num)]
    linarith
  unfold leftOut
  exact ⟨units_nonneg.trans low, units_nonneg.trans low', by linarith, by linarith⟩

/-- The digits that are taken are near to all the digits, whatever part of the last of them is added to both. -/
theorem near_take {cs : List Char} (digits : ∀ c ∈ cs, c.isDigit = true) {start : Nat} (small : start ≤ maxUnsigned)
    {part : ℚ} (part_nonneg : 0 ≤ part) (part_le : part ≤ 1) :
    let s := Significand.take start cs
    Near leftOut ((s.digits + part) * 10 ^ s.dropped) (start * 10 ^ cs.length + Text.placeValue cs + part) := by
  intro s
  obtain ⟨-, -, low, high, full⟩ := take_bracket digits small
  change s.digits * 10 ^ s.dropped ≤ _ at low
  change _ < (s.digits + 1) * 10 ^ s.dropped at high
  change s.dropped = 0 ∨ maxUnsigned < 10 * s.digits + 10 at full
  rcases full with exact | full
  · have same : s.digits = start * 10 ^ cs.length + Text.placeValue cs := by
      rw [exact, pow_zero] at low high
      omega
    have same' : (s.digits : ℚ) = start * 10 ^ cs.length + Text.placeValue cs := by exact_mod_cast same
    rw [exact, pow_zero, mul_one, ← same']
    refine (Near.refl ?_).mono ?_
    · positivity
    · unfold leftOut
      norm_num
  · have large : 2 ^ 60 ≤ s.digits := by
      unfold maxUnsigned at full
      omega
    have low' : (s.digits * 10 ^ s.dropped : ℚ) ≤ start * 10 ^ cs.length + Text.placeValue cs := by
      exact_mod_cast low
    have high' : (start * 10 ^ cs.length + Text.placeValue cs + 1 : ℚ) ≤ (s.digits + 1) * 10 ^ s.dropped := by
      exact_mod_cast high
    have unit_nonneg := (ten_pow_pos s.dropped).le
    apply near_of_bracket large unit_nonneg
    · exact mul_le_mul_of_nonneg_right (by linarith) unit_nonneg
    · exact mul_le_mul_of_nonneg_right (by linarith) unit_nonneg
    · linarith
    · linarith

/-! ## Tokens -/

namespace Numeral

def places (n : Numeral) : List Char :=
  n.fraction.getD []

/-- The parts of a token are made of digits. -/
structure IsDecimal (n : Numeral) : Prop where
  whole : ∀ c ∈ n.whole, c.isDigit = true
  places : ∀ c ∈ n.places, c.isDigit = true

def written (n : Numeral) : Int :=
  match n.exponent with
  | none => 0
  | some (negative, ds) => if negative then -(Text.digitsValue ds : Int) else Text.digitsValue ds

def magnitude (n : Numeral) : ℚ :=
  (Text.placeValue n.whole + Text.placeValue n.places / 10 ^ n.places.length) * 10 ^ n.written

def first (n : Numeral) : Significand :=
  Significand.take 0 n.whole

/-- The digits that are taken before and after the point. -/
def taken (n : Numeral) : Significand :=
  Significand.take n.first.digits n.places

/-- The power of ten that the digits taken have without the exponent. -/
def shift (n : Numeral) : Int :=
  n.first.dropped - ((n.places.length - n.taken.dropped : Nat) : Int)

/-- The power of ten that the digits taken have. -/
def power (n : Numeral) : Int :=
  n.shift + n.written

theorem magnitude?_eq (n : Numeral) : n.magnitude? = match n.exponent with
    | none => scaled n.taken.digits n.shift
    | some (negative, digits) =>
      if Text.digitsValue digits ≤ maxPower then
        scaled n.taken.digits (addPower n.shift negative (Text.digitsValue digits))
      else if n.taken.digits ≠ 0 ∧ !negative then none
      else some 0.0 := by
  have none_shift (absent : n.fraction = none) : n.shift = n.first.dropped := by
    have no_places : n.places = [] := by
      unfold places
      rw [absent]
      rfl
    unfold shift
    rw [no_places, List.length_nil, Nat.zero_sub]
    exact Int.sub_zero _
  cases fraction_eq : n.fraction with
  | none =>
    rw [none_shift fraction_eq]
    unfold magnitude? taken places
    rw [fraction_eq]
    rfl
  | some ds =>
    unfold magnitude? shift taken places
    rw [fraction_eq]
    rfl

section Decimal

variable {n : Numeral}

theorem first_le (decimal : n.IsDecimal) : n.first.digits ≤ maxUnsigned :=
  (take_bracket decimal.whole (Nat.zero_le _)).1

theorem taken_le (decimal : n.IsDecimal) : n.taken.digits ≤ maxUnsigned :=
  (take_bracket decimal.places (first_le decimal)).1

theorem ten_zpow_shift (decimal : n.IsDecimal) :
    (10 : ℚ) ^ n.shift = 10 ^ n.taken.dropped * (10 ^ n.first.dropped / 10 ^ n.places.length) := by
  have dropped_le : n.taken.dropped ≤ n.places.length := (take_bracket decimal.places (first_le decimal)).2.1
  have shift_eq : n.shift = n.taken.dropped + (n.first.dropped - n.places.length) := by
    unfold shift
    omega
  rw [shift_eq, zpow_add₀ (by norm_num), zpow_sub₀ (by norm_num), zpow_natCast, zpow_natCast, zpow_natCast]

/-- The digits that are taken before the point, with all the places, are near to all the digits. -/
theorem near_first (decimal : n.IsDecimal) :
    Near leftOut ((n.first.digits + Text.placeValue n.places / 10 ^ n.places.length) * 10 ^ n.first.dropped)
      (Text.placeValue n.whole + Text.placeValue n.places / 10 ^ n.places.length) := by
  have part_nonneg : (0 : ℚ) ≤ Text.placeValue n.places / 10 ^ n.places.length := by positivity
  have part_le : (Text.placeValue n.places / 10 ^ n.places.length : ℚ) ≤ 1 := by
    rw [div_le_one (ten_pow_pos _)]
    exact_mod_cast (Text.placeValue_lt decimal.places).le
  have near := near_take decimal.whole (Nat.zero_le maxUnsigned) part_nonneg part_le
  rw [Nat.cast_zero, zero_mul, zero_add] at near
  exact near

/-- The digits that are taken, with their power of ten, are near to the number that the token denotes. -/
theorem near_taken (decimal : n.IsDecimal) :
    Near (leftOut * leftOut) (n.taken.digits * 10 ^ n.power) n.magnitude := by
  have unit_nonneg : (0 : ℚ) ≤ 10 ^ n.first.dropped / 10 ^ n.places.length := by positivity
  have power_nonneg : (0 : ℚ) ≤ 10 ^ n.written := zpow_nonneg (by norm_num) _
  have all := near_take decimal.places (first_le decimal) (le_refl 0) zero_le_one
  change Near leftOut ((n.taken.digits + 0) * 10 ^ n.taken.dropped) (_ + 0) at all
  rw [add_zero, add_zero] at all
  have taken := all.mul (Near.refl unit_nonneg)
  change Near (leftOut * 1) (n.taken.digits * 10 ^ n.taken.dropped * _) _ at taken
  have all_eq : ((n.first.digits * 10 ^ n.places.length + Text.placeValue n.places) *
      (10 ^ n.first.dropped / 10 ^ n.places.length) : ℚ) =
      (n.first.digits + Text.placeValue n.places / 10 ^ n.places.length) * 10 ^ n.first.dropped := by
    field_simp
  rw [all_eq, mul_one, mul_assoc, ← ten_zpow_shift decimal] at taken
  have near := (taken.trans (near_first decimal) leftOut_nonneg leftOut_nonneg).mul (Near.refl power_nonneg)
  rw [mul_one, mul_assoc, ← zpow_add₀ (by norm_num)] at near
  exact near

theorem magnitude?_of_zero (zero : n.taken.digits = 0) : n.magnitude? = some (Float.ofNat 0) := by
  have zero_eq : (0.0 : Float) = Float.ofNat 0 := by decide +kernel
  rw [magnitude?_eq, zero, zero_eq]
  split
  · exact scaled_zero _
  · split
    · exact scaled_zero _
    · exact if_neg fun nonzero => nonzero.1 rfl

theorem shift_low (few : n.places.length ≤ 9) : -9 ≤ n.shift := by
  unfold shift
  omega

theorem written_of_none (exponent_eq : n.exponent = none) : n.written = 0 := by
  unfold written
  rw [exponent_eq]

theorem written_of_some {negative : Bool} {digits : List Char} (exponent_eq : n.exponent = some (negative, digits)) :
    n.written = if negative then -(Text.digitsValue digits : Int) else Text.digitsValue digits := by
  unfold written
  rw [exponent_eq]

/-- A power of ten that is kept within 32 bits scales as the power itself: where it is cut off, both are out of the
floats' range, or both make zero. -/
theorem scaled_addPower (decimal : n.IsDecimal) (pos : 0 < n.taken.digits) {negative : Bool} {digits : List Char}
    (exponent_eq : n.exponent = some (negative, digits)) :
    scaled n.taken.digits (addPower n.shift negative (Text.digitsValue digits)) = scaled n.taken.digits n.power := by
  have small := taken_le decimal
  have sum_eq : (if negative then n.shift - (Text.digitsValue digits : Int) else n.shift + Text.digitsValue digits) =
      n.power := by
    unfold power
    rw [written_of_some exponent_eq]
    cases negative with
    | false | true => rfl
  unfold addPower
  rw [sum_eq]
  unfold maxPower
  rcases lt_or_ge n.power (-924) with low | above
  · exact scaled_of_low small (by omega) low
  · rcases le_or_gt n.power 308 with bounded | large
    · congr 1
      omega
    · rw [scaled_of_large pos small (by omega), scaled_of_large pos small large]

/-- What floats make of a token. An exponent below all 32-bit numbers makes zero of every number. -/
def value (n : Numeral) : ℚ :=
  if n.written < -(maxPower : Int) then 0 else scaledValue n.taken.digits n.power

theorem value_of_le (within : -(maxPower : Int) ≤ n.written) : n.value = scaledValue n.taken.digits n.power :=
  if_neg (not_lt.mpr within)

theorem value_of_zero (zero : n.taken.digits = 0) : n.value = 0 := by
  unfold value
  rw [zero, scaledValue_zero, ite_self]

theorem magnitude?_of_pos (decimal : n.IsDecimal) (pos : 0 < n.taken.digits) (few : n.places.length ≤ 9) :
    (∃ x, n.magnitude? = some x ∧ Denotes x n.value) ∨ n.magnitude? = none ∧ 2 ^ (1023 : ℤ) ≤ n.value := by
  have small := taken_le decimal
  have scaled_power := @scaled_of_pos _ n.power pos small
  rw [magnitude?_eq]
  cases exponent_eq : n.exponent with
  | none =>
    have written_eq := written_of_none exponent_eq
    have power_eq : n.power = n.shift := by
      unfold power
      rw [written_eq, Int.add_zero]
    rw [value_of_le (by rw [written_eq]; decide)]
    rw [power_eq] at scaled_power ⊢
    exact scaled_power
  | some parts =>
    obtain ⟨negative, digits⟩ := parts
    have written_eq := written_of_some exponent_eq
    dsimp only
    split
    · next bounded =>
      have within : -(maxPower : Int) ≤ n.written := by
        rw [written_eq]
        split <;> omega
      rw [scaled_addPower decimal pos exponent_eq, value_of_le within]
      exact scaled_power
    · next huge =>
      cases negative with
      | false =>
        -- An exponent of more than 32 bits above zero takes the number beyond the finite floats.
        rw [if_neg Bool.false_ne_true] at written_eq
        have large : 308 < n.power := by
          have low := shift_low few
          unfold power
          unfold maxPower at huge
          omega
        rw [value_of_le (by omega)]
        exact .inr ⟨if_pos ⟨pos.ne', rfl⟩, le_scaledValue_of_large pos small large⟩
      | true =>
        rw [if_pos rfl] at written_eq
        have below : n.written < -(maxPower : Int) := by omega
        have zero_eq : (0.0 : Float) = Float.ofNat 0 := by decide +kernel
        refine .inl ⟨0.0, if_neg (by simp), ?_⟩
        unfold value
        rw [if_pos below, zero_eq]
        exact denotes_zero

/-- No digits of a token are lost near zero: no more than the 307th power of ten is divided out. -/
def KeepsDigits (n : Numeral) : Prop :=
  -(maxPower : Int) ≤ n.written ∧ -307 ≤ n.power

theorem near_value (decimal : n.IsDecimal) (keeps : n.KeepsDigits) :
    Near (roundoff * (roundoff * roundoff) * (leftOut * leftOut)) n.value n.magnitude := by
  rw [value_of_le keeps.1]
  exact (near_scaledValue n.taken.digits keeps.2).trans (near_taken decimal)
    (mul_nonneg roundoff_nonneg (mul_nonneg roundoff_nonneg roundoff_nonneg)) (mul_nonneg leftOut_nonneg leftOut_nonneg)

theorem value_eq_zero_or_least_le (keeps : n.KeepsDigits) : n.value = 0 ∨ 2 ^ (-1022 : ℤ) ≤ n.value := by
  rcases Nat.eq_zero_or_pos n.taken.digits with zero | pos
  · exact .inl (value_of_zero zero)
  · right
    rw [value_of_le keeps.1]
    exact least_le_scaledValue pos keeps.2

/-- A token denotes what floats make of it, or it is beyond the finite floats. -/
theorem magnitude?_spec (decimal : n.IsDecimal) (few : n.places.length ≤ 9) :
    (∃ x, n.magnitude? = some x ∧ Denotes x n.value) ∨ n.magnitude? = none ∧ 2 ^ (1023 : ℤ) ≤ n.value := by
  rcases Nat.eq_zero_or_pos n.taken.digits with zero | pos
  · left
    rw [magnitude?_of_zero zero, value_of_zero zero]
    exact ⟨_, rfl, denotes_zero⟩
  · exact magnitude?_of_pos decimal pos few

end Decimal

end Numeral

end ClusterCost.Json
