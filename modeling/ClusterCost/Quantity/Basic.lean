/-!
# Quantities

A quantity is an amount of a resource in milli-units: thousandths of a core, of a byte, of a device. It ranges over
the signed 64-bit integers, and that range is part of the type. Sums and differences that leave the range stop at its
ends; `add_milli`, `sub_milli` and `ofUnits_milli` say so in unbounded integers.
-/
namespace ClusterCost

abbrev Quantity.minMilli : Int := -9223372036854775808

abbrev Quantity.maxMilli : Int := 9223372036854775807

/-- An amount of a resource, counted in milli-units. -/
structure Quantity where
  milli : Int
  minMilli_le : Quantity.minMilli ≤ milli
  le_maxMilli : milli ≤ Quantity.maxMilli
  deriving DecidableEq, Repr

namespace Quantity

@[ext]
theorem ext {p q : Quantity} (h : p.milli = q.milli) : p = q := by
  cases p
  cases q
  cases h
  rfl

/-- The amount nearest to a number of milli-units: a number beyond the range stops at the end it passed. -/
def saturate (n : Int) : Quantity :=
  ⟨max minMilli (min n maxMilli), Int.le_max_left .., by simp only [minMilli, maxMilli]; omega⟩

/-- The amount of exactly `n` milli-units, if it is in the range. -/
def ofMilli? (n : Int) : Option Quantity :=
  if h : minMilli ≤ n ∧ n ≤ maxMilli then some ⟨n, h.1, h.2⟩ else none

def zero : Quantity := ⟨0, by decide, by decide⟩

instance : Zero Quantity := ⟨zero⟩

instance : Inhabited Quantity := ⟨zero⟩

/-- The amount of `n` whole units (cores, bytes, devices), kept within the range. -/
def ofUnits (n : Int) : Quantity := saturate (1000 * n)

/-- Whole units, rounded up. -/
def units (q : Quantity) : Int :=
  q.milli / 1000 + if q.milli % 1000 = 0 then 0 else 1

def isZero (q : Quantity) : Bool := q.milli == 0

def add (p q : Quantity) : Quantity := saturate (p.milli + q.milli)

def sub (p q : Quantity) : Quantity := saturate (p.milli - q.milli)

instance : Add Quantity := ⟨add⟩

instance : Sub Quantity := ⟨sub⟩

instance : LE Quantity := ⟨fun p q => p.milli ≤ q.milli⟩

instance : LT Quantity := ⟨fun p q => p.milli < q.milli⟩

instance (p q : Quantity) : Decidable (p ≤ q) := inferInstanceAs (Decidable (p.milli ≤ q.milli))

instance (p q : Quantity) : Decidable (p < q) := inferInstanceAs (Decidable (p.milli < q.milli))

instance : Ord Quantity := ⟨fun p q => compare p.milli q.milli⟩

/-- The sum of a list from left to right, every step kept within the range. -/
def sum (qs : List Quantity) : Quantity := qs.foldl (· + ·) 0

theorem saturate_milli (n : Int) : (saturate n).milli = max minMilli (min n maxMilli) := rfl

theorem saturate_of_mem {n : Int} (low : minMilli ≤ n) (high : n ≤ maxMilli) : (saturate n).milli = n := by
  rw [saturate_milli]
  omega

@[simp]
theorem zero_milli : (0 : Quantity).milli = 0 := rfl

theorem add_milli (p q : Quantity) : (p + q).milli = max minMilli (min (p.milli + q.milli) maxMilli) :=
  saturate_milli _

theorem sub_milli (p q : Quantity) : (p - q).milli = max minMilli (min (p.milli - q.milli) maxMilli) :=
  saturate_milli _

theorem ofUnits_milli (n : Int) : (ofUnits n).milli = max minMilli (min (1000 * n) maxMilli) :=
  saturate_milli _

theorem le_def (p q : Quantity) : p ≤ q ↔ p.milli ≤ q.milli := Iff.rfl

theorem lt_def (p q : Quantity) : p < q ↔ p.milli < q.milli := Iff.rfl

theorem isZero_iff (q : Quantity) : q.isZero = true ↔ q.milli = 0 := by
  simp [isZero]

theorem ofMilli?_milli (q : Quantity) : ofMilli? q.milli = some q := by
  simp [ofMilli?, q.minMilli_le, q.le_maxMilli]

theorem ofMilli?_eq_some_iff {n : Int} {q : Quantity} : ofMilli? n = some q ↔ q.milli = n := by
  constructor
  · intro h
    unfold ofMilli? at h
    split at h
    · cases h
      rfl
    · cases h
  · rintro rfl
    exact ofMilli?_milli q

end Quantity

end ClusterCost
