import ClusterCost.Proofs.Quantity.Reading
import ClusterCost.Quantity.Printer

/-!
# Plain spellings

What is written for a quantity is a spelling of the grammar: a numeral in whole units, or one in milli-units with their
suffix (`exists_ofNumber_of_toChars`). Such a spelling has no fraction and no divisor, so its number is read as it
stands, and `parse_render` gives back the quantity that was written, at both ends of the range as well. Since reading
undoes writing, what is written is a normal form of all the texts that denote one quantity (`render_canonical`).
-/
namespace ClusterCost.Quantity

open Text (Digits Sign)

def digitsOf (n : Nat) : Digits where
  chars := Nat.toDigits 10 n
  isDigit _ member := Nat.isDigit_of_mem_toDigits (by omega) (by omega) member

theorem value_digitsOf (n : Nat) : (digitsOf n).value = n := by
  rw [← Text.digitsValue_eq]
  exact Text.digitsValue_toDigits n

theorem digitsOf_ne_nil (n : Nat) : (digitsOf n).chars ≠ [] :=
  Nat.toDigits_ne_nil

def signOf (n : Int) : Sign :=
  if n < 0 then .minus else .none

namespace Spelling

/-- The spelling of a whole number of a unit. -/
def ofNumber (n : Int) (u : UnitSuffix) : Spelling where
  sign := signOf n
  whole := digitsOf n.natAbs
  fraction := none
  suffix := .unit u
  nonempty := .inl (digitsOf_ne_nil _)
  length_le _ absent := nomatch absent

theorem chars_ofNumber (n : Int) (u : UnitSuffix) : (ofNumber n u).chars = Text.numeral n ++ u.chars := by
  have digits : (ofNumber n u).chars = (signOf n).chars ++ (Nat.toDigits 10 n.natAbs ++ [] ++ u.chars) := rfl
  rw [digits, List.append_nil, ← List.append_assoc]
  unfold Text.numeral signOf
  by_cases negative : n < 0
  · rw [if_pos negative, if_pos negative]
    rfl
  · rw [if_neg negative, if_neg negative]
    rfl

theorem numerator_ofNumber (n : Int) (u : UnitSuffix) : (ofNumber n u).numerator = n.natAbs * u.scale := by
  have places : (ofNumber n u).places.chars.length = 0 := rfl
  have nothing : (ofNumber n u).places.value = 0 := rfl
  have whole : (ofNumber n u).whole.value = n.natAbs := value_digitsOf n.natAbs
  unfold numerator
  rw [places, nothing, whole, pow_zero, Nat.mul_one, Nat.add_zero]
  rfl

theorem divisor_ofNumber (n : Int) (u : UnitSuffix) : (ofNumber n u).divisor = 1 := rfl

/-- A numeral of a unit denotes the number of its milli-units. -/
theorem rounded_ofNumber (n : Int) (u : UnitSuffix) : (ofNumber n u).rounded = n * u.scale := by
  have magnitude : ((n.natAbs * u.scale : Nat) : Int) = |n| * u.scale := by
    rw [Nat.cast_mul, Int.natCast_natAbs]
  have sign : (ofNumber n u).sign = signOf n := rfl
  rw [rounded, numerator_ofNumber, divisor_ofNumber, Nat.cast_one, div_one, Int.ceil_natCast, Sign.apply_eq, magnitude,
    sign]
  unfold signOf
  by_cases negative : n < 0
  · rw [if_pos negative, if_pos rfl, abs_of_neg negative, Int.neg_mul, Int.neg_neg]
  · rw [if_neg negative, if_neg Sign.noConfusion, abs_of_nonneg (Int.not_lt.mp negative)]

theorem fits_ofNumber {n : Int} {u : UnitSuffix} (room : n.natAbs * u.scale ≤ 2 ^ 64) : (ofNumber n u).Fits where
  scale_le := u.scale_le
  divisor_le := by
    rw [divisor_ofNumber]
    omega
  numerator_le := by
    rw [numerator_ofNumber]
    omega

end Spelling

/-- What is written for a quantity is a numeral of a unit, and the quantity has that many milli-units. -/
theorem exists_ofNumber_of_toChars (q : Quantity) :
    ∃ n u, q.toChars = (Spelling.ofNumber n u).chars ∧ q.milli = n * u.scale := by
  unfold toChars
  by_cases whole : q.milli % 1000 = 0
  · refine ⟨q.milli / 1000, .one, ?_, ?_⟩
    · rw [if_pos whole, Spelling.chars_ofNumber, UnitSuffix.chars, List.append_nil]
    · exact (Int.ediv_mul_cancel (Int.dvd_of_emod_eq_zero whole)).symm
  · refine ⟨q.milli, .milli, ?_, ?_⟩
    · rw [if_neg whole, Spelling.chars_ofNumber]
      rfl
    · exact (Int.mul_one q.milli).symm

/-- A quantity is read as it was written. -/
theorem parse_render (q : Quantity) : parse q.render = .ok q := by
  obtain ⟨n, u, written, value⟩ := exists_ofNumber_of_toChars q
  have room : n.natAbs * u.scale ≤ 2 ^ 64 := by
    have magnitude : n.natAbs * u.scale = q.milli.natAbs := by
      rw [value, Int.natAbs_mul, Int.natAbs_natCast]
    have low := q.minMilli_le
    have high := q.le_maxMilli
    simp only [minMilli, maxMilli] at low high
    omega
  have spelled : (Spelling.ofNumber n u).SpelledBy q.render := by
    refine ⟨[], [], by simp [Text.Blanks], by simp [Text.Blanks], ?_⟩
    rw [render, String.toList_ofList, written, List.nil_append, List.append_nil]
  refine (parse_spelled_eq_ok_iff spelled).mpr ⟨Spelling.fits_ofNumber room, ?_, ?_⟩
  · rw [Spelling.numerator_ofNumber, Spelling.divisor_ofNumber]
    omega
  · rw [Spelling.rounded_ofNumber]
    exact value

/-- Different quantities are written differently. -/
theorem render_injective : Function.Injective render := by
  intro q q' same
  have read : parse q.render = .ok q' := same ▸ parse_render q'
  rw [parse_render, Except.ok.injEq] at read
  exact read

/-- A quantity is read as it was written, and two texts that are read denote the same quantity exactly if the same is
written for them, that is if the numbers that they spell have the same milli-units, rounded. -/
theorem render_canonical :
    (∀ q : Quantity, parse q.render = .ok q) ∧
    ∀ {s s' : String} {q q' : Quantity}, parse s = .ok q → parse s' = .ok q' →
      (parse s = parse s' ↔ q.render = q'.render) ∧
      ∀ {p p' : Spelling}, p.SpelledBy s → p'.SpelledBy s' →
        (awayFromZero (1000 * p.amount) = awayFromZero (1000 * p'.amount) ↔ q.render = q'.render) := by
  refine ⟨parse_render, fun read read' => ⟨?_, fun spelled spelled' => ?_⟩⟩
  · rw [read, read', Except.ok.injEq]
    exact render_injective.eq_iff.symm
  · obtain ⟨-, -, value⟩ := (parse_spelled_eq_ok_iff spelled).mp read
    obtain ⟨-, -, value'⟩ := (parse_spelled_eq_ok_iff spelled').mp read'
    rw [← Spelling.rounded_eq_awayFromZero, ← Spelling.rounded_eq_awayFromZero, ← value, ← value',
      render_injective.eq_iff]
    exact Quantity.ext_iff.symm

/-- A number that is rounded away from zero to the least quantity. -/
def nearLeast : Spelling where
  sign := .minus
  whole := digitsOf 9223372036854775
  fraction := some (digitsOf 807001)
  suffix := .unit .one
  nonempty := .inl (digitsOf_ne_nil _)
  length_le _ places := Option.some.inj places ▸ show (Nat.toDigits 10 807001).length ≤ 9 by decide

/-- Two texts of the least quantity. -/
theorem render_least :
    parse (saturate minMilli).render = .ok (saturate minMilli) ∧
      parse "-9223372036854775808m" = parse "-9223372036854775.807001" ∧
      awayFromZero (1000 * (Spelling.ofNumber minMilli .milli).amount) = awayFromZero (1000 * nearLeast.amount) := by
  have read : parse "-9223372036854775808m" = .ok (saturate minMilli) := by decide +kernel
  have read' : parse "-9223372036854775.807001" = .ok (saturate minMilli) := by decide +kernel
  have canonical := render_canonical.2 read read'
  refine ⟨render_canonical.1 _, canonical.1.mpr rfl, (canonical.2 ?_ ?_).mpr rfl⟩
  · exact Spelling.spelledBy_iff.mpr (by decide +kernel)
  · exact Spelling.spelledBy_iff.mpr (by decide +kernel)

end ClusterCost.Quantity
