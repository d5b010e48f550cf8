import ClusterCost.Quantity.Basic
import Mathlib

/-!
# Whole units

`Quantity.units` rounds an amount up to whole units, and `Quantity.ofUnits` makes an amount of whole units. The units of
an amount are the least that are enough for it (`isLeast_units`): `v` units are enough exactly if the amount is no more
than `1000 * v` milli-units (`units_le_iff`). What `ofUnits` makes of `v` units is compared with the amount in the same
way, but it stops at the ends of the range, and the two ends differ. A stop at the greatest amount loses nothing, since
no amount is greater. A stop at the least amount makes more than the units come to. It happens below `minUnits`, so the
two functions are adjoint from there on (`units_gc_ofUnits`) and for no fewer units (`units_adjoint_iff`).
-/
namespace ClusterCost.Quantity

variable {q : Quantity} {v : Int}

/-- Amounts are ordered by their milli-units, and comparing two of them tells their order. -/
instance : LinearOrder Quantity where
  le_refl p := Int.le_refl p.milli
  le_trans _ _ _ := Int.le_trans
  le_antisymm _ _ le ge := ext (Int.le_antisymm le ge)
  lt_iff_le_not_ge _ _ := Int.lt_iff_le_and_not_ge
  le_total p q := Int.le_total p.milli q.milli
  toDecidableLE := inferInstance
  toDecidableLT := inferInstance
  toDecidableEq := inferInstance
  compare_eq_compareOfLessAndEq p q := by
    have milli_inj : p.milli = q.milli ↔ p = q := ⟨ext, congrArg milli⟩
    change compareOfLessAndEq p.milli q.milli = compareOfLessAndEq p q
    simp only [compareOfLessAndEq, milli_inj, lt_def]

abbrev minUnits : Int := -9223372036854775

/-- The whole units of the greatest amount: more than it holds, since they are rounded up. -/
abbrev maxUnits : Int := 9223372036854776

/-! ## Rounding up -/

theorem units_le_iff : q.units ≤ v ↔ q.milli ≤ 1000 * v := by
  unfold units
  split <;> omega

/-- The whole units of an amount are the least that are enough for it. -/
theorem isLeast_units (q : Quantity) : IsLeast {v : ℤ | q.milli ≤ 1000 * v} q.units :=
  ⟨units_le_iff.mp le_rfl, fun _ enough => units_le_iff.mpr enough⟩

/-- A negative amount is rounded up as well, and so towards zero. -/
example : (saturate (-1500)).units = -1 := by decide

theorem minUnits_le_units (q : Quantity) : minUnits ≤ q.units := by
  have enough := units_le_iff.mp (le_refl q.units)
  have low := q.minMilli_le
  simp only [minMilli, minUnits] at low ⊢
  omega

theorem units_le_maxUnits (q : Quantity) : q.units ≤ maxUnits := by
  have high := q.le_maxMilli
  simp only [maxMilli, maxUnits] at high ⊢
  exact units_le_iff.mpr (by omega)

/-- The numbers formed on the way to whole units: the quotient, what is left over, and the quotient rounded up. -/
def unitsWords (q : Quantity) : List Int :=
  [q.milli / 1000, q.milli % 1000, q.units]

/-- Rounding up never leaves a signed 64-bit word. -/
theorem unitsWords_fit (q : Quantity) : ∀ n ∈ q.unitsWords, -2 ^ 63 ≤ n ∧ n ≤ 2 ^ 63 - 1 := by
  have low := q.minMilli_le
  have high := q.le_maxMilli
  have least := q.minUnits_le_units
  have greatest := q.units_le_maxUnits
  unfold unitsWords
  simp only [List.forall_mem_cons, List.not_mem_nil, false_imp_iff, implies_true, and_true]
  simp only [minMilli, maxMilli, minUnits, maxUnits] at low high least greatest
  omega

/-! ## Back to amounts -/

/-- The amount made of `v` units is no less than another one exactly if the units are enough for that. -/
theorem le_ofUnits_iff (low : minUnits ≤ v) : q ≤ ofUnits v ↔ q.milli ≤ 1000 * v := by
  -- By `low` the milli-units are not below the range; if they are beyond it, both sides hold, by the bound on `q`.
  have high := q.le_maxMilli
  rw [le_def, ofUnits_milli]
  simp only [minMilli, maxMilli, minUnits] at low high ⊢
  omega

/-- From the units of the least amount on, whole units and the amounts made of them are adjoint. -/
theorem units_gc_ofUnits :
    GaloisConnection (fun q : Quantity => (⟨q.units, q.minUnits_le_units⟩ : Set.Ici minUnits))
      (fun v : Set.Ici minUnits => ofUnits v) := by
  intro q v
  rw [le_ofUnits_iff v.property, ← units_le_iff]
  exact Iff.rfl

/-- More never comes to fewer whole units. -/
theorem units_mono : Monotone units :=
  fun _ _ le => units_gc_ofUnits.monotone_l le

theorem units_saturate_minMilli : (saturate minMilli).units = minUnits := by decide

/-- The adjunction begins with the units of the least amount. Fewer units stop there, and so the least amount is no more
than what is made of them, although they are not enough for it. -/
theorem units_adjoint_iff : (∀ q : Quantity, q ≤ ofUnits v ↔ q.units ≤ v) ↔ minUnits ≤ v := by
  constructor
  · intro adjoint
    have stopped : saturate minMilli ≤ ofUnits v := (ofUnits v).minMilli_le
    rw [← units_saturate_minMilli]
    exact (adjoint _).mp stopped
  · intro low q
    exact (units_gc_ofUnits q ⟨v, low⟩).symm

/-- Units that an amount was made of come back, unless they are beyond those of the two ends of the range. -/
theorem units_ofUnits (v : Int) : (ofUnits v).units = max minUnits (min v maxUnits) := by
  refine eq_of_forall_ge_iff fun w => ?_
  rw [units_le_iff, ofUnits_milli]
  simp only [minMilli, maxMilli, minUnits, maxUnits]
  omega

/-- Whole units are the least that are enough for an amount, and are formed in words that they fit. From those of the
least amount on, and not below, units are enough for an amount exactly if the amount made of them is no less. So more
never comes to fewer units, and units of which the milli-units fit come back. -/
theorem units_least_adjoint :
    (∀ q : Quantity, (∀ n ∈ q.unitsWords, -2 ^ 63 ≤ n ∧ n ≤ 2 ^ 63 - 1) ∧
      IsLeast {v : ℤ | q.milli ≤ 1000 * v} q.units) ∧
    (∀ v : ℤ, (∀ q : Quantity, q ≤ ofUnits v ↔ q.units ≤ v) ↔ minUnits ≤ v) ∧
    (∀ p q : Quantity, p ≤ q → p.units ≤ q.units) ∧
    ∀ v : ℤ, minMilli ≤ 1000 * v → 1000 * v ≤ maxMilli → (ofUnits v).units = v := by
  refine ⟨fun q => ⟨q.unitsWords_fit, q.isLeast_units⟩, fun v => units_adjoint_iff, ?_, ?_⟩
  · intro p q le
    exact units_mono le
  · intro v low high
    rw [units_ofUnits]
    simp only [minMilli, maxMilli, minUnits, maxUnits] at low high ⊢
    omega

/-- The two ends of the range: the least units that come back, and units far beyond the greatest amount. -/
theorem units_of_extremes :
    let least := saturate minMilli
    let greatest := saturate maxMilli
    (least ≤ greatest ∧ least.units ≤ greatest.units) ∧ (minUnits ≤ 2 ^ 63 - 1 ∧ greatest ≤ ofUnits (2 ^ 63 - 1)) ∧
      (minMilli ≤ 1000 * minUnits ∧ 1000 * minUnits ≤ maxMilli ∧ (ofUnits minUnits).units = minUnits) := by
  intro least greatest
  have ordered : least ≤ greatest := by decide
  have beyond : minUnits ≤ 2 ^ 63 - 1 := by decide
  have low : minMilli ≤ 1000 * minUnits := by decide
  have high : 1000 * minUnits ≤ maxMilli := by decide
  obtain ⟨-, adjoint, mono, back⟩ := units_least_adjoint
  refine ⟨⟨ordered, mono _ _ ordered⟩, ⟨beyond, ?_⟩, low, high, back minUnits low high⟩
  exact ((adjoint _).mpr beyond greatest).mpr (by decide)

end ClusterCost.Quantity
