import ClusterCost.Instant

/-!
# Sums on the clock

The clock covers a part of an unbounded time line, and `Instant.toNanos` is the place of an instant on that line. A sum is
the instant at its exact place (`addSeconds?_eq_some_iff`). It has no value exactly if that place is after every instant
(`addSeconds?_eq_none_iff`), so whether a sum is before an instant can be told from the exact places alone
(`exists_addSeconds?_lt_iff`). Seconds added in steps leave the clock exactly if all of them together do
(`addSeconds?_bind`).
-/
namespace ClusterCost.Instant

variable {t u : Instant}

/-- No two instants are at one place. -/
theorem eq_of_toNanos_eq (same : t.toNanos = u.toNanos) : t = u := by
  obtain ⟨seconds, nanos, low, high, small⟩ := t
  obtain ⟨seconds', nanos', low', high', small'⟩ := u
  simp only [toNanos, nanosPerSecond] at same small small'
  obtain rfl : seconds = seconds' := by omega
  obtain rfl : nanos = nanos' := by omega
  rfl

theorem exists_addSeconds?_iff {n : Nat} : (∃ sum, t.addSeconds? n = some sum) ↔ t.seconds + n ≤ maxSeconds := by
  constructor
  · rintro ⟨sum, sum_eq⟩
    unfold addSeconds? ofParts? at sum_eq
    split at sum_eq
    · next range => exact range.2.1
    · cases sum_eq
  · intro within
    have low : minSeconds ≤ t.seconds + n := by
      have least := t.minSeconds_le
      omega
    exact ⟨⟨t.seconds + n, t.nanos, low, within, t.nanos_lt⟩, dif_pos ⟨low, within, t.nanos_lt⟩⟩

/-- A sum is the instant at its exact place. -/
theorem addSeconds?_eq_some_iff {n : Nat} :
    t.addSeconds? n = some u ↔ u.toNanos = t.toNanos + n * nanosPerSecond := by
  constructor
  · exact toNanos_of_addSeconds?
  · intro place
    have within : t.seconds + n ≤ maxSeconds := by
      have greatest := u.le_maxSeconds
      have small := u.nanos_lt
      have small' := t.nanos_lt
      simp only [toNanos, nanosPerSecond] at place small small'
      omega
    obtain ⟨sum, sum_eq⟩ := exists_addSeconds?_iff.mpr within
    rw [sum_eq, eq_of_toNanos_eq ((toNanos_of_addSeconds? sum_eq).trans place.symm)]

/-- A sum has no value exactly if every instant is before its exact place. -/
theorem addSeconds?_eq_none_iff {n : Nat} :
    t.addSeconds? n = none ↔ ∀ u : Instant, u.toNanos < t.toNanos + n * nanosPerSecond := by
  constructor
  · intro absent u
    have beyond : maxSeconds < t.seconds + n := by
      refine Int.not_le.mp fun within => ?_
      obtain ⟨sum, sum_eq⟩ := exists_addSeconds?_iff.mpr within
      rw [absent] at sum_eq
      cases sum_eq
    -- The last second of the clock has all its nanoseconds, and the sum starts a later one.
    have greatest := u.le_maxSeconds
    have small := u.nanos_lt
    simp only [toNanos, nanosPerSecond] at small ⊢
    omega
  · intro before
    cases sum_eq : t.addSeconds? n with
    | none => rfl
    | some sum => exact absurd (toNanos_of_addSeconds? sum_eq) (Int.ne_of_lt (before sum))

/-- A sum is before an instant exactly if its place is, also where the sum has no value. -/
theorem exists_addSeconds?_lt_iff {n : Nat} :
    (∃ sum, t.addSeconds? n = some sum ∧ sum < u) ↔ t.toNanos + n * nanosPerSecond < u.toNanos := by
  constructor
  · rintro ⟨sum, sum_eq, before⟩
    rw [← toNanos_of_addSeconds? sum_eq]
    exact before
  · intro before
    cases sum_eq : t.addSeconds? n with
    | none => exact absurd before (Int.lt_asymm (addSeconds?_eq_none_iff.mp sum_eq u))
    | some sum =>
      rw [← toNanos_of_addSeconds? sum_eq] at before
      exact ⟨sum, rfl, before⟩

/-- Seconds that are added in two steps are added at once: where the first sum has no value, neither has the whole. -/
theorem addSeconds?_bind (t : Instant) (n m : Nat) :
    ((t.addSeconds? n).bind fun sum => sum.addSeconds? m) = t.addSeconds? (n + m) := by
  cases sum_eq : t.addSeconds? n with
  | none =>
    symm
    rw [addSeconds?_eq_none_iff] at sum_eq
    rw [Option.bind_none, addSeconds?_eq_none_iff]
    intro u
    have before := sum_eq u
    simp only [nanosPerSecond] at before ⊢
    omega
  | some sum =>
    have place := toNanos_of_addSeconds? sum_eq
    rw [Option.bind_some]
    cases total_eq : t.addSeconds? (n + m) with
    | none =>
      rw [addSeconds?_eq_none_iff] at total_eq ⊢
      intro u
      have before := total_eq u
      simp only [nanosPerSecond] at before place ⊢
      omega
    | some total =>
      rw [addSeconds?_eq_some_iff] at total_eq ⊢
      simp only [nanosPerSecond] at total_eq place ⊢
      omega

end ClusterCost.Instant
