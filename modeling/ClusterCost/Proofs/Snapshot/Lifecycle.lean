import ClusterCost.Proofs.Instant
import ClusterCost.Snapshot.Lifecycle

/-!
# The deadline of a stopping pod

The deadline is made of three sums on the clock, and each of them may leave it. Put together they are one sum
(`deadline?_of_stopping`), which leaves the clock exactly if the deadline is after every instant. So a pod whose deadline
has no value still gets the answer of the exact comparison (`isLongTerminating_iff_exact`): that it is not over yet.
-/
namespace ClusterCost.Pod

/-- The seconds that a pod may take to stop. -/
def grace (p : Pod) : Nat :=
  (p.gracePeriod.map UInt64.toNat).getD defaultGracePeriod

/-- The three sums are one. -/
theorem deadline?_of_stopping {p : Pod} {deletion : UInt64} (stopping : p.deletionTime = some deletion) :
    p.deadline? = Instant.epoch.addSeconds? (deletion.toNat + p.grace + overtime) := by
  have steps (grace : Nat) : ((Instant.epoch.addSeconds? deletion.toNat).bind fun deleted =>
      (deleted.addSeconds? grace).bind fun stopped => stopped.addSeconds? overtime) =
        Instant.epoch.addSeconds? (deletion.toNat + grace + overtime) := by
    rw [← Instant.addSeconds?_bind, ← Instant.addSeconds?_bind, Option.bind_assoc]
  unfold deadline? grace
  rw [stopping]
  cases p.gracePeriod with
  | none => exact steps defaultGracePeriod
  | some seconds => exact steps seconds.toNat

theorem deadline?_of_running {p : Pod} (running : p.deletionTime = none) : p.deadline? = none := by
  unfold deadline?
  rw [running]
  rfl

theorem isLongTerminating_iff {p : Pod} {now : Instant} :
    p.isLongTerminating now = true ↔ ∃ deadline, p.deadline? = some deadline ∧ deadline < now := by
  unfold isLongTerminating
  cases p.deadline? with
  | none => simp
  | some deadline => simp

/-- A pod that has been stopping for too long stays so. -/
theorem isLongTerminating_mono {p : Pod} {t t' : Instant} (later : t ≤ t') (expired : p.isLongTerminating t = true) :
    p.isLongTerminating t' = true := by
  rw [isLongTerminating_iff] at expired ⊢
  obtain ⟨deadline, deadline_eq, before⟩ := expired
  exact ⟨deadline, deadline_eq, Int.lt_of_lt_of_le before later⟩

/-- Whether a pod has been stopping for too long is the comparison of its deadline with the present on an unbounded time
line, in nanoseconds: the deletion, the grace period or thirty seconds, and five minutes have to be strictly before it.
Where one of the three sums leaves the clock, the deadline is after every instant, so the answer is the same. -/
theorem isLongTerminating_iff_exact (p : Pod) :
    let grace : Nat := (p.gracePeriod.map UInt64.toNat).getD 30
    let limit (deletion : UInt64) : Int := (deletion.toNat + grace + 300 : Nat) * 1000000000
    let position (t : Instant) : Int := t.seconds * 1000000000 + t.nanos
    (∀ now, p.isLongTerminating now = true ↔ ∃ deletion, p.deletionTime = some deletion ∧ limit deletion < position now) ∧
    ∀ deletion, p.deletionTime = some deletion → (p.deadline? = none ↔ ∀ t, position t < limit deletion) := by
  intro grace limit position
  have place (deletion : UInt64) :
      Instant.epoch.toNanos + (deletion.toNat + p.grace + overtime : Nat) * Instant.nanosPerSecond = limit deletion :=
    Int.zero_add _
  constructor
  · intro now
    rw [isLongTerminating_iff]
    cases deleted : p.deletionTime with
    | none => simp [deadline?_of_running deleted]
    | some deletion =>
      rw [deadline?_of_stopping deleted, Instant.exists_addSeconds?_lt_iff, place]
      simp only [Option.some.injEq, exists_eq_left']
      exact Iff.rfl
  · intro deletion deleted
    rw [deadline?_of_stopping deleted, Instant.addSeconds?_eq_none_iff, place]
    exact Iff.rfl

end ClusterCost.Pod
