import ClusterCost.Proofs.Outcome
import ClusterCost.Proofs.Quantity.Lexing
import Mathlib.Tactic.NormNum

/-!
# Suffixes and their scales

The reader gives a suffix its scale and its divisor exactly if both fit signed 128-bit words (`ofSuffix_chars_iff`),
and a text that it gives any scale at all is a suffix (`exists_suffix_of_ofSuffix`). An exponent that is too long for
the reader's field is refused like one whose power of ten does not fit, so its length needs no case of its own.
-/
namespace ClusterCost.Quantity

open Text (Digits Sign)

theorem fitWord_eq_ok_iff {n m : Nat} : fitWord n = .ok m ↔ m = n ∧ n ≤ wordMax := by
  unfold fitWord
  split
  · next fit => simp [fit, eq_comm]
  · next unfit => simp [unfit]

/-- The thirty-eighth power of ten is the last that fits a word. -/
theorem pow_le_wordMax_iff {n : Nat} : 10 ^ n ≤ wordMax ↔ n ≤ 38 := by
  constructor
  · intro fit
    by_contra large
    have above : 10 ^ 39 ≤ 10 ^ n := Nat.pow_le_pow_right (by decide) (by omega)
    exact absurd (above.trans fit) (by decide)
  · intro small
    have below : 10 ^ n ≤ 10 ^ 38 := Nat.pow_le_pow_right (by decide) small
    exact below.trans (by decide)

theorem powerOfTen_eq_ok_iff {n m : Nat} : powerOfTen n = .ok m ↔ m = 10 ^ n ∧ 10 ^ n ≤ wordMax := by
  unfold powerOfTen
  rw [pow_le_wordMax_iff]
  split
  · next small => simp [small, eq_comm]
  · next large => simp [large]

/-! ## Units -/

theorem unitFactor?_chars (u : UnitSuffix) : unitFactor? u.chars = some u.scale := by
  cases u with
  | one | milli | kilo | mega | giga | tera | peta | kibi | mebi | gibi | tebi | pebi => decide

theorem exists_unit_of_unitFactor? {cs : List Char} {factor : Nat} (found : unitFactor? cs = some factor) :
    ∃ u : UnitSuffix, u.chars = cs := by
  unfold unitFactor? at found
  split at found
  · exact ⟨.milli, rfl⟩
  · exact ⟨.one, rfl⟩
  · exact ⟨.kilo, rfl⟩
  · exact ⟨.mega, rfl⟩
  · exact ⟨.giga, rfl⟩
  · exact ⟨.tera, rfl⟩
  · exact ⟨.peta, rfl⟩
  · exact ⟨.kibi, rfl⟩
  · exact ⟨.mebi, rfl⟩
  · exact ⟨.gibi, rfl⟩
  · exact ⟨.tebi, rfl⟩
  · exact ⟨.pebi, rfl⟩
  · cases found

theorem UnitSuffix.scale_le (u : UnitSuffix) : u.scale ≤ wordMax := by
  cases u with
  | one | milli | kilo | mega | giga | tera | peta | kibi | mebi | gibi | tebi | pebi => decide

/-! ## Exponents -/

/-- A signed number depends on its text only, not on how the text is cut into a sign and digits. -/
theorem apply_value_congr {sign sign' : Sign} {ds ds' : Digits}
    (same : sign.chars ++ ds.chars = sign'.chars ++ ds'.chars) : sign.apply ds.value = sign'.apply ds'.value := by
  have starts (ds : Digits) : ∀ c, ds.chars.head? = some c → isNumberChar c = true := fun c found =>
    isNumberChar_of_isDigit (ds.isDigit c (List.mem_of_mem_head? found))
  have split := congrArg splitSign same
  rw [splitSign_chars sign (starts ds), splitSign_chars sign' (starts ds')] at split
  obtain ⟨signs, digits⟩ := Prod.mk.inj split
  have value_eq : ds.value = ds'.value := by rw [Digits.value, digits, Digits.value]
  have minus_iff := decide_eq_decide.mp signs
  simp only [Sign.apply_eq, value_eq, minus_iff]

/-- The reader's field for exponents holds signed 32-bit numbers. -/
theorem exponent?_chars_iff {capital : Bool} {sign : Sign} {ds : Digits} (nonempty : ds.chars ≠ []) {n : Int} :
    exponent? (Suffix.exponent capital sign ds nonempty).chars = some n ↔
      n = (Suffix.exponent capital sign ds nonempty).power ∧ -(maxExponent + 1 : Int) ≤ n ∧ n ≤ maxExponent := by
  have read : exponent? (Suffix.exponent capital sign ds nonempty).chars =
      Text.signed? maxExponent (sign.chars ++ ds.chars) := by
    cases capital with
    | false | true => rfl
  rw [read, Text.signed?_eq_some_iff]
  constructor
  · rintro ⟨sign', ds', -, spelled, value, bounds⟩
    exact ⟨value.trans (apply_value_congr spelled).symm, bounds⟩
  · rintro ⟨value, bounds⟩
    exact ⟨sign, ds, nonempty, rfl, value, bounds⟩

theorem exists_exponent_of_exponent? {cs : List Char} {n : Int} (found : exponent? cs = some n) :
    ∃ capital sign ds nonempty, (Suffix.exponent capital sign ds nonempty).chars = cs := by
  unfold exponent? at found
  split at found
  · obtain ⟨sign, ds, nonempty, rfl, -⟩ := Text.signed?_eq_some_iff.mp found
    exact ⟨false, sign, ds, nonempty, rfl⟩
  · obtain ⟨sign, ds, nonempty, rfl, -⟩ := Text.signed?_eq_some_iff.mp found
    exact ⟨true, sign, ds, nonempty, rfl⟩
  · cases found

/-! ## Scales -/

/-- A text with a scale is a suffix. -/
theorem exists_suffix_of_ofSuffix {cs : List Char} {scale : Scale} (found : Scale.ofSuffix cs = .ok scale) :
    ∃ s : Suffix, s.chars = cs := by
  unfold Scale.ofSuffix at found
  split at found
  · next factor unit =>
    obtain ⟨u, rfl⟩ := exists_unit_of_unitFactor? unit
    exact ⟨.unit u, rfl⟩
  · split at found
    · cases found
    · next n exponent =>
      obtain ⟨capital, sign, ds, nonempty, rfl⟩ := exists_exponent_of_exponent? exponent
      exact ⟨.exponent capital sign ds nonempty, rfl⟩

/-- The exponent of a suffix that fits is far from the ends of the reader's field. -/
theorem Suffix.power_le_of_fits {s : Suffix} (scale_le : s.scale ≤ wordMax) (divisor_le : s.divisor ≤ wordMax) :
    s.power.natAbs ≤ 38 := by
  have negative : (-s.power).toNat ≤ 38 := pow_le_wordMax_iff.mp divisor_le
  have positive : s.power.toNat ≤ 38 := by
    cases s with
    | unit u => exact Nat.zero_le 38
    | exponent capital sign ds nonempty =>
      apply pow_le_wordMax_iff.mp
      have factor_le := Nat.le_mul_of_pos_left (10 ^ (Suffix.exponent capital sign ds nonempty).power.toNat)
        (Nat.succ_pos 999)
      exact factor_le.trans scale_le
  omega

theorem ofSuffix_unit (u : UnitSuffix) : Scale.ofSuffix u.chars = .ok ⟨u.scale, 1⟩ := by
  unfold Scale.ofSuffix
  rw [unitFactor?_chars]

/-- A positive exponent multiplies the milli-units of one unit, a negative one divides them. -/
theorem ofSuffix_of_exponent {cs : List Char} {e : Int} {scale : Scale} (no_unit : unitFactor? cs = none)
    (read : exponent? cs = some e) : Scale.ofSuffix cs = .ok scale ↔
      scale = ⟨1000 * 10 ^ e.toNat, 10 ^ (-e).toNat⟩ ∧ 1000 * 10 ^ e.toNat ≤ wordMax ∧ 10 ^ (-e).toNat ≤ wordMax := by
  unfold Scale.ofSuffix
  rw [no_unit, read]
  simp only [bind_eq_ok, powerOfTen_eq_ok_iff]
  by_cases negative : e < 0
  · have one_unit : e.toNat = 0 := by omega
    have down : (-e).toNat = e.natAbs := by omega
    simp only [negative, if_true, one_unit, down]
    constructor
    · rintro ⟨power, ⟨rfl, fit⟩, found⟩
      cases found
      exact ⟨rfl, by decide, fit⟩
    · rintro ⟨rfl, -, fit⟩
      exact ⟨_, ⟨rfl, fit⟩, rfl⟩
  · have no_divisor : (-e).toNat = 0 := by omega
    have up : e.toNat = e.natAbs := by omega
    simp only [negative, if_false, no_divisor, up, bind_eq_ok, fitWord_eq_ok_iff]
    constructor
    · rintro ⟨power, ⟨rfl, -⟩, factor, ⟨rfl, fit⟩, found⟩
      cases found
      rw [Nat.mul_comm] at fit ⊢
      exact ⟨rfl, fit, by decide⟩
    · rintro ⟨rfl, fit, -⟩
      have power_fit : 10 ^ e.natAbs ≤ wordMax := (Nat.le_mul_of_pos_left _ (Nat.succ_pos 999)).trans fit
      rw [Nat.mul_comm] at fit
      exact ⟨_, ⟨rfl, power_fit⟩, _, ⟨rfl, fit⟩, by rw [Nat.mul_comm]; rfl⟩

/-- A suffix has its scale and its divisor exactly if both fit. -/
theorem ofSuffix_chars_iff {s : Suffix} {scale : Scale} :
    Scale.ofSuffix s.chars = .ok scale ↔ scale = ⟨s.scale, s.divisor⟩ ∧ s.scale ≤ wordMax ∧ s.divisor ≤ wordMax := by
  cases s with
  | unit u =>
    have divisor_eq : (Suffix.unit u).divisor = 1 := rfl
    have unit_fits : u.scale ≤ wordMax ∧ 1 ≤ wordMax := ⟨u.scale_le, by decide⟩
    rw [Suffix.chars, ofSuffix_unit, Except.ok.injEq, divisor_eq, Suffix.scale, eq_comm]
    simp [unit_fits]
  | exponent capital sign ds nonempty =>
    let s := Suffix.exponent capital sign ds nonempty
    have no_unit : unitFactor? s.chars = none := by
      cases capital with
      | false | true => rfl
    cases read : exponent? s.chars with
    | some e =>
      obtain ⟨rfl, -⟩ := (exponent?_chars_iff nonempty).mp read
      exact ofSuffix_of_exponent no_unit read
    | none =>
      have refused : Scale.ofSuffix s.chars = .error .unknownSuffix := by
        unfold Scale.ofSuffix
        rw [no_unit, read]
      constructor
      · intro found
        rw [refused] at found
        cases found
      · rintro ⟨-, scale_le, divisor_le⟩
        -- An exponent that fits would have been read.
        have small : s.power.natAbs ≤ 38 := Suffix.power_le_of_fits scale_le divisor_le
        have in_field : -(maxExponent + 1 : Int) ≤ s.power ∧ s.power ≤ maxExponent := by
          simp only [maxExponent]
          omega
        rw [(exponent?_chars_iff nonempty).mpr ⟨rfl, in_field⟩] at read
        cases read

end ClusterCost.Quantity
