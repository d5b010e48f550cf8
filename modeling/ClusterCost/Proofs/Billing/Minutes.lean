import ClusterCost.Billing.Window
import ClusterCost.Proofs.Binary64.Near
import ClusterCost.Proofs.Binary64.Remainder
import ClusterCost.Proofs.Binary64.Whole
import Mathlib.Order.Bounds.Basic

/-!
# Billed minutes

The length of a window is exact in nanoseconds, but it is rounded twice on the way to minutes: as a float of 53 digits,
and again after the division. `minutes_of_forward` says what is billed for every window that does not run backwards.
Up to 292 years only the first rounding shows, and in one way only: a minute is dropped if the nanoseconds of it that have
passed are no more than half of the last digit (`DropsMinute`). This begins after 104 days, with a single nanosecond.
Longer windows are billed like a time that differs in the fifty-second digit, and so perhaps more than they should be.
-/
namespace ClusterCost.Billing.Window

open Binary64

abbrev minuteNanos : ℕ := 60000000000

/-- The minutes that are made of a number of nanoseconds by way of floats: the nanoseconds are rounded to 53 digits, and
their quotient once more, before it is rounded up. -/
def roundedMinutes (n : ℤ) : ℤ :=
  ⌈nearest (nearest n / minuteNanos)⌉

/-- A minute is begun, but the nanoseconds of it are no more than half of the last digit of 53. -/
def DropsMinute (n : ℤ) : Prop :=
  0 < n % minuteNanos ∧ n % minuteNanos * 2 ^ 53 ≤ 2 ^ n.toNat.log2

instance (n : ℤ) : Decidable (DropsMinute n) :=
  inferInstanceAs (Decidable (_ ∧ _))

/-! ## The billed minutes of floats -/

theorem denotes_nanosPerMinute : Denotes nanosPerMinute minuteNanos := by
  have same : nanosPerMinute = Float.ofNat minuteNanos := by decide +kernel
  have denotes := denotes_ofNat_of_short (n := minuteNanos) (by norm_num) (by norm_num)
  rw [nearest_natCast (by norm_num)] at denotes
  rw [same]
  exact denotes

theorem nanos_nonneg {w : Window} (forward : w.start ≤ w.finish) : 0 ≤ w.nanos :=
  Int.sub_nonneg.mpr forward

theorem nanos_le (w : Window) : w.nanos ≤ 2 ^ 94 := by
  have low := w.start.minSeconds_le
  have high := w.finish.le_maxSeconds
  have small := w.finish.nanos_lt
  simp only [nanos, Instant.toNanos, Instant.minSeconds, Instant.maxSeconds, Instant.nanosPerSecond] at low high small ⊢
  omega

/-- The quotient of the floats denotes the rounded quotient of the rounded nanoseconds. -/
theorem denotes_quotient_nanos {w : Window} (forward : w.start ≤ w.finish) :
    Denotes (Float.ofInt w.nanos / nanosPerMinute) (nearest (nearest w.nanos / minuteNanos)) := by
  have nonneg := nanos_nonneg forward
  have divisor_pos : (0 : ℚ) < minuteNanos := by norm_num
  rcases nonneg.eq_or_lt with zero | pos
  · rw [← zero]
    have dividend := denotes_ofInt (n := 0) (.inl rfl)
    exact dividend.div denotes_nanosPerMinute divisor_pos (.inl (by rw [Int.cast_zero, nearest_zero]))
  · have one_le : (1 : ℚ) ≤ w.nanos := by exact_mod_cast pos
    have small : (w.nanos : ℚ) ≤ 2 ^ (94 : ℤ) := by exact_mod_cast w.nanos_le
    have range : InRange |(w.nanos : ℚ)| := by
      rw [abs_of_pos (by linarith)]
      exact inRange_of_one_le one_le (small.trans (zpow_le_zpow_right₀ (by norm_num) (by norm_num)))
    have low := one_le_nearest one_le
    have high := nearest_le_two_zpow small
    refine (denotes_ofInt (.inr range)).div denotes_nanosPerMinute divisor_pos (.inr ?_)
    rw [abs_of_pos (div_pos (by linarith) divisor_pos)]
    constructor
    · rw [le_div_iff₀ divisor_pos]
      calc (2 : ℚ) ^ (-1022 : ℤ) * minuteNanos ≤ 2 ^ (-1022 : ℤ) * 2 ^ (36 : ℤ) :=
            mul_le_mul_of_nonneg_left (by norm_num) (two_zpow_pos _).le
        _ = 2 ^ (-986 : ℤ) := by rw [← two_zpow_add]; norm_num
        _ ≤ 1 := zpow_le_one_of_nonpos₀ (by norm_num) (by norm_num)
        _ ≤ nearest w.nanos := low
    · rw [div_le_iff₀ divisor_pos]
      calc nearest (w.nanos : ℚ) ≤ 2 ^ (94 : ℤ) * 1 := by rw [mul_one]; exact high
        _ ≤ 2 ^ (1023 : ℤ) * minuteNanos :=
            mul_le_mul (zpow_le_zpow_right₀ (by norm_num) (by norm_num)) (by norm_num) zero_le_one (two_zpow_pos _).le

theorem denotes_minutes {w : Window} (forward : w.start ≤ w.finish) :
    Denotes w.minutes (roundedMinutes w.nanos) := by
  have nonneg : (0 : ℚ) ≤ w.nanos := Int.cast_nonneg (nanos_nonneg forward)
  have small : (w.nanos : ℚ) ≤ 2 ^ (94 : ℤ) := by exact_mod_cast w.nanos_le
  apply (denotes_quotient_nanos forward).ceil
  · exact nearest_nonneg (div_nonneg (nearest_nonneg nonneg) (by norm_num))
  · have quotient_small : nearest (w.nanos : ℚ) / minuteNanos ≤ 2 ^ (64 : ℤ) := by
      have high := nearest_le_two_zpow small
      rw [div_le_iff₀ (by norm_num)]
      norm_num at high ⊢
      linarith
    exact_mod_cast nearest_le_two_zpow quotient_small

/-! ## Whole minutes and remainders -/

/-- The nanoseconds of whole minutes need no more than 53 digits for 584 years. -/
theorem nearest_wholeMinutes {m : ℕ} (small : m ≤ 307445734) :
    nearest ((m * minuteNanos : ℕ) : ℚ) = (m * minuteNanos : ℕ) := by
  rcases Nat.eq_zero_or_pos m with rfl | pos
  · rw [Nat.zero_mul, Nat.cast_zero, nearest_zero]
  · have odd_part : ((m * minuteNanos : ℕ) : ℚ) = ((m * 29296875 : ℕ) : ℚ) * 2 ^ 11 := by
      push_cast
      ring
    have odd_pos : (0 : ℚ) < (m * 29296875 : ℕ) := Nat.cast_pos.mpr (by omega)
    rw [odd_part, nearest_mul_two_pow odd_pos, nearest_natCast (by omega)]

/-- A longer time is never billed for less. -/
theorem roundedMinutes_mono {n n' : ℤ} (le : n ≤ n') : roundedMinutes n ≤ roundedMinutes n' := by
  have dividends : nearest (n : ℚ) ≤ nearest n' := nearest_mono (Int.cast_le.mpr le)
  exact Int.ceil_mono (nearest_mono ((div_le_div_iff_of_pos_right (by norm_num)).mpr dividends))

theorem roundedMinutes_whole {m : ℕ} (small : m ≤ 307445734) : roundedMinutes (m * minuteNanos : ℕ) = m := by
  have quotient : ((m * minuteNanos : ℕ) : ℚ) / minuteNanos = m := by
    rw [Nat.cast_mul, mul_div_cancel_right₀ _ (by norm_num)]
  rw [roundedMinutes, Int.cast_natCast, nearest_wholeMinutes small, quotient, nearest_natCast (n := m) (by omega),
    Int.ceil_natCast]

theorem pow_dvd_wholeMinutes (a : ℕ) {k : ℕ} (small : k ≤ 11) : 2 ^ k ∣ a * minuteNanos :=
  Nat.dvd_mul_left_of_dvd ((Nat.pow_dvd_pow 2 small).trans ⟨29296875, by norm_num⟩) a

/-- Up to 292 years no more than ten binary places are lost. -/
theorem exists_exponent_nanos {n : ℕ} (long : 2 ^ 53 ≤ n) (small : n < 2 ^ 63) :
    ∃ j ≤ 10, n.log2 = 52 + j ∧ exponent n = j := by
  have pos : 0 < n := by omega
  have low : 53 ≤ n.log2 := (Nat.le_log2 pos.ne').mpr long
  have high : n.log2 < 63 := (Nat.log2_lt pos.ne').mpr small
  refine ⟨n.log2 - 52, by omega, by omega, ?_⟩
  rw [exponent_natCast pos]
  omega

section Remainder

variable {a r : ℕ}

/-- A minute that is dropped is not billed: its nanoseconds are rounded off before the division. -/
theorem roundedMinutes_of_few (small : a * minuteNanos + r < 2 ^ 63) (begun : 0 < r)
    (few : r * 2 ^ 53 ≤ 2 ^ (a * minuteNanos + r).log2) : roundedMinutes (a * minuteNanos + r : ℕ) = a := by
  have long : 2 ^ 53 ≤ a * minuteNanos + r := by
    have power_le := Nat.log2_self_le (n := a * minuteNanos + r) (by omega)
    omega
  obtain ⟨j, j_le, log, digits⟩ := exists_exponent_nanos long small
  have half : 2 * r ≤ 2 ^ j := by
    rw [log, pow_add] at few
    omega
  have whole_small : a ≤ 307445734 := by
    simp only [minuteNanos] at small
    omega
  have rounded := nearest_add_of_le_half digits (pow_dvd_wholeMinutes a (by omega)) half
  rw [← roundedMinutes_whole whole_small, roundedMinutes, roundedMinutes, Int.cast_natCast, Int.cast_natCast, rounded,
    nearest_wholeMinutes whole_small]

/-- A minute that is not dropped leaves a quotient above the minutes before it. -/
theorem lt_roundedMinutes_of_many (small : a * minuteNanos + r < 2 ^ 63) (begun : 0 < r)
    (many : 2 ^ (a * minuteNanos + r).log2 < r * 2 ^ 53) : (a : ℤ) < roundedMinutes (a * minuteNanos + r : ℕ) := by
  obtain ⟨g, g_pos, above, short⟩ : ∃ g : ℕ, 0 < g ∧
      ((a * minuteNanos + g : ℕ) : ℚ) ≤ nearest ((a * minuteNanos + r : ℕ) : ℚ) ∧
      a * minuteNanos + g < 2 ^ 53 * g := by
    by_cases long : 2 ^ 53 ≤ a * minuteNanos + r
    · obtain ⟨j, j_le, log, digits⟩ := exists_exponent_nanos long small
      have whole := pow_dvd_wholeMinutes a (k := j + 1) (by omega)
      have half : 2 ^ j < 2 * r := by
        rw [log, pow_add] at many
        omega
      have kept := le_nearest_add_of_half_lt digits whole half
      refine ⟨2 ^ j, by positivity, by push_cast at kept ⊢; exact kept, ?_⟩
      have below : a * minuteNanos + r < 2 ^ (53 + j) := by
        have power := Nat.lt_log2_self (n := a * minuteNanos + r)
        rwa [log, show 52 + j + 1 = 53 + j by omega] at power
      -- The whole minutes are a multiple of twice the last digit, so with one digit more they are still below.
      obtain ⟨b, whole_eq⟩ := whole
      have b_lt : b < 2 ^ 52 := by
        have scaled : 2 ^ (j + 1) * b < 2 ^ (j + 1) * 2 ^ 52 := by
          rw [← whole_eq, ← pow_add, show j + 1 + 52 = 53 + j by omega]
          exact (Nat.le_add_right _ r).trans_lt below
        exact Nat.lt_of_mul_lt_mul_left scaled
      calc a * minuteNanos + 2 ^ j = 2 ^ j * (2 * b + 1) := by rw [whole_eq, pow_succ]; ring
        _ < 2 ^ j * 2 ^ 53 := Nat.mul_lt_mul_of_pos_left (by omega) (by positivity)
        _ = 2 ^ 53 * 2 ^ j := Nat.mul_comm _ _
    · refine ⟨1, one_pos, ?_, by omega⟩
      rw [nearest_natCast (not_le.mp long)]
      exact_mod_cast (by omega : a * minuteNanos + 1 ≤ a * minuteNanos + r)
  have divided : (a : ℚ) < nearest (((a * minuteNanos + g : ℕ) : ℚ) / minuteNanos) :=
    lt_nearest_div (g := g) (by norm_num) (by push_cast; rfl) (by exact_mod_cast short) (Nat.cast_nonneg _)
  have rounded := nearest_mono ((div_le_div_iff_of_pos_right (by norm_num : (0 : ℚ) < minuteNanos)).mpr above)
  have ceil := (divided.trans_le rounded).trans_le (Int.le_ceil _)
  exact_mod_cast ceil

end Remainder

/-! ## The least number of minutes -/

/-- The least number of minutes for nanoseconds after whole minutes. -/
theorem isLeast_minutes {n : ℤ} {a r : ℕ} (parts : n = a * minuteNanos + r) (less : r < minuteNanos) :
    IsLeast {k : ℤ | n ≤ k * minuteNanos} (if r = 0 then (a : ℤ) else a + 1) := by
  simp only [minuteNanos] at parts less ⊢
  constructor
  · rw [Set.mem_ofPred_eq]
    split <;> omega
  · intro k enough
    rw [Set.mem_ofPred_eq] at enough
    split <;> omega

/-- Up to 292 years the minutes that are made by way of floats are the least number that is not too short, but for a
minute that is dropped. -/
theorem isLeast_roundedMinutes {n : ℤ} (nonneg : 0 ≤ n) (small : n < 2 ^ 63) :
    IsLeast {k : ℤ | n ≤ k * minuteNanos} (if DropsMinute n then roundedMinutes n + 1 else roundedMinutes n) := by
  obtain ⟨n, rfl⟩ := Int.eq_ofNat_of_zero_le nonneg
  obtain ⟨a, r, rfl, less⟩ : ∃ a r, n = a * minuteNanos + r ∧ r < minuteNanos :=
    ⟨n / minuteNanos, n % minuteNanos, (Nat.div_add_mod' n minuteNanos).symm, Nat.mod_lt n (by norm_num)⟩
  have small' : a * minuteNanos + r < 2 ^ 63 := by exact_mod_cast small
  have whole_small : a + 1 ≤ 307445734 := by
    simp only [minuteNanos] at small'
    omega
  have drops_iff : DropsMinute (a * minuteNanos + r : ℕ) ↔ 0 < r ∧ r * 2 ^ 53 ≤ 2 ^ (a * minuteNanos + r).log2 := by
    have remainder : ((a * minuteNanos + r : ℕ) : ℤ) % minuteNanos = r := by
      simp only [minuteNanos] at less ⊢
      omega
    unfold DropsMinute
    rw [remainder, Int.toNat_natCast]
    exact_mod_cast Iff.rfl
  have least := isLeast_minutes (n := (a * minuteNanos + r : ℕ)) (by push_cast; rfl) less
  rcases Nat.eq_zero_or_pos r with rfl | begun
  · have kept : ¬DropsMinute (a * minuteNanos + 0 : ℕ) := fun drops => lt_irrefl 0 (drops_iff.mp drops).1
    rw [if_neg kept, Nat.add_zero, roundedMinutes_whole (by omega)]
    rw [if_pos rfl, Nat.add_zero] at least
    exact least
  · rw [if_neg begun.ne'] at least
    by_cases few : r * 2 ^ 53 ≤ 2 ^ (a * minuteNanos + r).log2
    · rw [if_pos (drops_iff.mpr ⟨begun, few⟩), roundedMinutes_of_few small' begun few]
      exact least
    · have above := lt_roundedMinutes_of_many small' begun (not_le.mp few)
      have next : roundedMinutes (a * minuteNanos + r : ℕ) ≤ (a + 1 : ℕ) := by
        rw [← roundedMinutes_whole whole_small]
        exact roundedMinutes_mono (by simp only [minuteNanos] at less ⊢; omega)
      have same : roundedMinutes (a * minuteNanos + r : ℕ) = a + 1 := by omega
      rw [if_neg fun drops => few (drops_iff.mp drops).2, same]
      exact least

/-- Below 2 ^ 53 nanoseconds no digit is lost, and no minute. -/
theorem not_dropsMinute_of_short {n : ℤ} (nonneg : 0 ≤ n) (short : n < 2 ^ 53) : ¬DropsMinute n := by
  rintro ⟨begun, few⟩
  obtain ⟨n, rfl⟩ := Int.eq_ofNat_of_zero_le nonneg
  rw [Int.toNat_natCast] at few
  rcases Nat.eq_zero_or_pos n with rfl | pos
  · exact absurd begun (by decide)
  · have power_le : ((2 ^ n.log2 : ℕ) : ℤ) ≤ n := Int.ofNat_le.mpr (Nat.log2_self_le pos.ne')
    push_cast at power_le
    omega

/-- A single nanosecond after whole minutes is dropped as soon as digits are lost. -/
theorem dropsMinute_nanosecond {n : ℤ} {k : ℕ} (parts : n = k * minuteNanos + 1) (long : 2 ^ 53 ≤ n) :
    DropsMinute n := by
  have remainder : n % minuteNanos = 1 := by
    simp only [minuteNanos] at parts ⊢
    omega
  have digits : 53 ≤ n.toNat.log2 := (Nat.le_log2 (by omega)).mpr (by omega)
  unfold DropsMinute
  rw [remainder, one_mul]
  exact ⟨one_pos, pow_le_pow_right₀ (by norm_num) digits⟩

/-- The minutes are the exact ones of a time that differs by one part of 2 ^ 51 at most. -/
theorem exists_roundedMinutes {n : ℤ} (nonneg : 0 ≤ n) :
    ∃ t : ℚ, |t - n| ≤ n / 2 ^ 51 ∧ roundedMinutes n = ⌈t / minuteNanos⌉ := by
  have nonneg' : (0 : ℚ) ≤ n := Int.cast_nonneg nonneg
  have divisor_pos : (0 : ℚ) < minuteNanos := by norm_num
  have dividend := near_nearest nonneg'
  have quotient := near_nearest (div_nonneg dividend.left_nonneg divisor_pos.le)
  have near := (quotient.trans (dividend.div (Near.refl divisor_pos.le) divisor_pos divisor_pos) roundoff_nonneg
    (by rw [mul_one]; exact roundoff_nonneg))
  have near' := near.mul (Near.refl divisor_pos.le)
  rw [div_mul_cancel₀ _ divisor_pos.ne'] at near'
  have factor : roundoff * (roundoff * 1) * 1 ≤ 1 + 1 / 2 ^ 51 := by
    unfold roundoff
    norm_num
  refine ⟨nearest (nearest n / minuteNanos) * minuteNanos, ?_, ?_⟩
  · have error := (near'.mono factor).abs_sub_le (by norm_num)
    rw [add_sub_cancel_left, one_div_mul_eq_div] at error
    exact error
  · rw [mul_div_cancel_right₀ _ divisor_pos.ne', roundedMinutes]

/-- What is billed for a window that does not run backwards. Up to 292 years it is the least number of minutes that is
not too short, unless the last minute is dropped; a single nanosecond after whole minutes is billed exactly while no
digit is lost. For every window it is the exact number of minutes of a time that differs by one part of 2 ^ 51 at
most. -/
theorem minutes_of_forward {w : Window} (forward : w.start ≤ w.finish) :
    ∃ m : ℤ, Denotes w.minutes m ∧ m = ⌈nearest (nearest w.nanos / minuteNanos)⌉ ∧
      (w.nanos < 2 ^ 63 →
        IsLeast {k : ℤ | w.nanos ≤ k * minuteNanos} (if DropsMinute w.nanos then m + 1 else m)) ∧
      (∀ k : ℕ, w.nanos = k * minuteNanos + 1 → w.nanos < 2 ^ 63 → m = if w.nanos < 2 ^ 53 then (k : ℤ) + 1 else k) ∧
      ∃ t : ℚ, |t - w.nanos| ≤ w.nanos / 2 ^ 51 ∧ m = ⌈t / minuteNanos⌉ := by
  have nonneg := nanos_nonneg forward
  refine ⟨roundedMinutes w.nanos, denotes_minutes forward, rfl, isLeast_roundedMinutes nonneg, ?_,
    exists_roundedMinutes nonneg⟩
  intro k nanos_eq small
  have least := isLeast_roundedMinutes nonneg small
  have same := least.unique (isLeast_minutes (r := 1) nanos_eq (by norm_num))
  rw [if_neg one_ne_zero] at same
  by_cases short : w.nanos < 2 ^ 53
  · rw [if_neg (not_dropsMinute_of_short nonneg short)] at same
    rw [if_pos short]
    exact same
  · rw [if_pos (dropsMinute_nanosecond nanos_eq (not_lt.mp short))] at same
    rw [if_neg short]
    exact add_right_cancel same

/-- A window from the epoch that ends some nanoseconds after 150120 minutes. -/
def beyond (rest : Fin 60) : Window :=
  ⟨Instant.epoch, ⟨9007200, rest, by decide, by decide, by simp only [Instant.nanosPerSecond]; omega⟩⟩

/-- Two nanoseconds after 150120 minutes are kept, although digits are lost there. -/
theorem minutes_twoBeyond : (beyond 2).start ≤ (beyond 2).finish ∧ 2 ^ 53 < (beyond 2).nanos ∧
    Denotes (beyond 2).minutes 150121 := by
  have forward : (beyond 2).start ≤ (beyond 2).finish := by decide
  have nanos_eq : (beyond 2).nanos = (150120 : ℕ) * minuteNanos + (2 : ℕ) := by decide
  have kept : ¬DropsMinute (beyond 2).nanos := by decide +kernel
  obtain ⟨m, denotes, -, least, -⟩ := minutes_of_forward forward
  have same := (least (by decide)).unique (isLeast_minutes nanos_eq (by norm_num))
  rw [if_neg kept, if_neg two_ne_zero] at same
  rw [same] at denotes
  refine ⟨forward, by decide, ?_⟩
  exact_mod_cast denotes

/-- One nanosecond after 150120 minutes is not billed, so the minutes are not always the least that are not too
short. -/
theorem minutes_nanosecondBeyond : (beyond 1).start ≤ (beyond 1).finish ∧ (beyond 1).minutes = Float.ofNat 150120 ∧
    IsLeast {k : ℤ | (beyond 1).nanos ≤ k * minuteNanos} 150121 := by
  have nanos_eq : (beyond 1).nanos = (150120 : ℕ) * minuteNanos + (1 : ℕ) := by decide
  have least := isLeast_minutes nanos_eq (by norm_num)
  rw [if_neg one_ne_zero] at least
  refine ⟨by decide, by decide +kernel, ?_⟩
  exact_mod_cast least

end ClusterCost.Billing.Window
