/-!
# Points in time

An instant is a whole number of seconds from the Unix epoch, within the signed 64-bit numbers, and nanoseconds after
them. Sums that leave the range have no value. `Instant.toNanos` is the exact position on the time line; order and
distance are those of the positions.
-/
namespace ClusterCost

abbrev Instant.minSeconds : Int := -9223372036854775808

abbrev Instant.maxSeconds : Int := 9223372036854775807

abbrev Instant.nanosPerSecond : Nat := 1000000000

structure Instant where
  seconds : Int
  nanos : Nat
  minSeconds_le : Instant.minSeconds ≤ seconds
  le_maxSeconds : seconds ≤ Instant.maxSeconds
  nanos_lt : nanos < Instant.nanosPerSecond
  deriving DecidableEq, Repr

namespace Instant

/-- The instant at a number of seconds and nanoseconds, if the clock reaches it. -/
def ofParts? (seconds : Int) (nanos : Nat) : Option Instant :=
  if h : minSeconds ≤ seconds ∧ seconds ≤ maxSeconds ∧ nanos < nanosPerSecond then
    some ⟨seconds, nanos, h.1, h.2.1, h.2.2⟩
  else none

def epoch : Instant := ⟨0, 0, by decide, by decide, by decide⟩

instance : Inhabited Instant := ⟨epoch⟩

/-- The instant a number of seconds later, if the clock reaches it. -/
def addSeconds? (t : Instant) (n : Nat) : Option Instant :=
  ofParts? (t.seconds + n) t.nanos

def toNanos (t : Instant) : Int :=
  t.seconds * nanosPerSecond + t.nanos

instance : LT Instant := ⟨fun s t => s.toNanos < t.toNanos⟩

instance : LE Instant := ⟨fun s t => s.toNanos ≤ t.toNanos⟩

instance (s t : Instant) : Decidable (s < t) := inferInstanceAs (Decidable (s.toNanos < t.toNanos))

instance (s t : Instant) : Decidable (s ≤ t) := inferInstanceAs (Decidable (s.toNanos ≤ t.toNanos))

theorem lt_def (s t : Instant) : s < t ↔ s.toNanos < t.toNanos := Iff.rfl

theorem le_def (s t : Instant) : s ≤ t ↔ s.toNanos ≤ t.toNanos := Iff.rfl

/-- A later instant is exactly that many seconds later. -/
theorem toNanos_of_addSeconds? {t u : Instant} {n : Nat} (h : t.addSeconds? n = some u) :
    u.toNanos = t.toNanos + n * nanosPerSecond := by
  unfold addSeconds? ofParts? at h
  split at h
  · cases h
    simp only [toNanos, nanosPerSecond]
    omega
  · cases h

end Instant

end ClusterCost
