import ClusterCost.Proofs.Quantity.Saturation
import ClusterCost.Utilization.Ratio

/-!
# The utilization of a resource against exact sums

A ratio rests on two saturating totals, what the counted pods request and what the reserved ones do. `verdict` is the
ratio as a function of these totals alone (`ratio_eq_verdict`), and `exactRequested` is a total in unbounded integers.

Where no request is negative, saturation never decides: `ratio_of_nonneg` gives the outcome of every assessment in
terms of the exact sums, and its divisor is the exact difference, a positive number that was never cut off.
-/
namespace ClusterCost.Utilization

/-- What the pods of one class request, container by container, in unbounded integers. -/
def exactRequested (settings : UtilizationSettings) (now : Instant) (resource : String) (wanted : Accounting)
    (pods : List Pod) : Int :=
  Quantity.exactSum ((pods.filter fun p => accounting settings now p = wanted).flatMap (·.requests resource))

/-- The ratio of a node by its totals: what is reserved of the resource, and what is requested of the rest. -/
def verdict (info : NodeInfo) (resource : String) (reserved counted : Quantity) : Except Fault Float :=
  match info.node.allocatable.get? resource with
  | none => .error (.missing resource info.node.name)
  | some allocatable =>
    if allocatable.milli = 0 then .error (.zero resource info.node.name)
    else if (allocatable - reserved).milli ≤ 0 then
      .error (.exhausted resource info.node.name allocatable.milli reserved.milli)
    else .ok (quotient counted.milli (allocatable - reserved).milli)

/-- A ratio depends on the pods through their two totals only. -/
theorem ratio_eq_verdict (settings : UtilizationSettings) (now : Instant) (info : NodeInfo) (resource : String) :
    ratio settings now info resource =
      verdict info resource (requested settings now resource .reserved info.pods)
        (requested settings now resource .counted info.pods) := by
  unfold ratio verdict
  cases info.node.allocatable.get? resource with
  | none => rfl
  | some allocatable => simp only [Quantity.isZero_iff]

/-- The total of a class is its exact sum, or the greatest amount where that is beyond the range: neither the sums of
the pods nor the sum over them lose anything else by saturation. -/
theorem requested_of_nonneg (settings : UtilizationSettings) (now : Instant) (resource : String) (wanted : Accounting)
    {pods : List Pod} (nonneg : ∀ p ∈ pods, ∀ q ∈ p.requests resource, 0 ≤ q.milli) :
    (requested settings now resource wanted pods).milli =
      min (exactRequested settings now resource wanted pods) Quantity.maxMilli := by
  have groups_nonneg : ∀ qs ∈ (pods.filter fun p => accounting settings now p = wanted).map (·.requests resource),
      ∀ q ∈ qs, 0 ≤ q.milli := by
    intro qs member
    obtain ⟨p, kept, rfl⟩ := List.mem_map.mp member
    exact nonneg p (List.mem_filter.mp kept).1
  have total := Quantity.sum_sums_of_nonneg groups_nonneg
  rw [List.map_map] at total
  unfold requested exactRequested
  rw [List.flatMap_def]
  exact total

theorem exactRequested_nonneg (settings : UtilizationSettings) (now : Instant) (resource : String)
    (wanted : Accounting) {pods : List Pod} (nonneg : ∀ p ∈ pods, ∀ q ∈ p.requests resource, 0 ≤ q.milli) :
    0 ≤ exactRequested settings now resource wanted pods := by
  apply Quantity.exactSum_nonneg
  intro q member
  obtain ⟨p, kept, inside⟩ := List.mem_flatMap.mp member
  exact nonneg p (List.mem_filter.mp kept).1 q inside

/-! ## What is left for the counted pods -/

section Available

variable {allocatable reserved : Quantity} {exact : Int}

/-- A difference with a total that is not negative saturates only where it is not positive anyway, so its sign is that
of the exact difference with the exact sum. -/
theorem available_nonpos_iff (exact_nonneg : 0 ≤ exact) (total : reserved.milli = min exact Quantity.maxMilli) :
    (allocatable - reserved).milli ≤ 0 ↔ allocatable.milli ≤ exact := by
  have high := allocatable.le_maxMilli
  have reserved_nonneg : 0 ≤ reserved.milli := by
    rw [total]
    exact le_min exact_nonneg (by decide)
  rw [Quantity.sub_milli]
  simp only [Quantity.minMilli, Quantity.maxMilli] at high total ⊢
  omega

/-- Where something is left, the difference is the exact one. -/
theorem available_of_lt (exact_nonneg : 0 ≤ exact) (total : reserved.milli = min exact Quantity.maxMilli)
    (less : exact < allocatable.milli) : (allocatable - reserved).milli = allocatable.milli - exact := by
  have high := allocatable.le_maxMilli
  have within : reserved.milli = exact := by
    rw [total]
    exact min_eq_left (by omega)
  have difference_le : allocatable.milli - exact ≤ allocatable.milli := Int.sub_le_self _ exact_nonneg
  rw [Quantity.sub_milli, within]
  simp only [Quantity.minMilli, Quantity.maxMilli] at high ⊢
  omega

/-- More reserved leaves less. -/
theorem available_anti (allocatable : Quantity) {p q : Quantity} (le : p ≤ q) :
    (allocatable - q).milli ≤ (allocatable - p).milli := by
  rw [Quantity.le_def] at le
  rw [Quantity.sub_milli, Quantity.sub_milli]
  simp only [Quantity.minMilli, Quantity.maxMilli]
  omega

end Available

/-! ## The outcome of a ratio -/

section Outcome

variable {info : NodeInfo} {resource : String} {allocatable reserved counted : Quantity}

theorem verdict_missing_iff : verdict info resource reserved counted = .error (.missing resource info.node.name) ↔
    info.node.allocatable.get? resource = none := by
  unfold verdict
  cases info.node.allocatable.get? resource with
  | none => simp
  | some allocatable =>
    simp only [reduceCtorEq, iff_false]
    split
    · simp
    · split <;> simp

theorem verdict_zero_iff (listed : info.node.allocatable.get? resource = some allocatable) :
    verdict info resource reserved counted = .error (.zero resource info.node.name) ↔ allocatable.milli = 0 := by
  unfold verdict
  rw [listed]
  dsimp only
  split
  · next zero => simp [zero]
  · next nonzero => split <;> simp [nonzero]

theorem verdict_of_exhausted (listed : info.node.allocatable.get? resource = some allocatable)
    (nonzero : allocatable.milli ≠ 0) (none_left : (allocatable - reserved).milli ≤ 0) :
    verdict info resource reserved counted =
      .error (.exhausted resource info.node.name allocatable.milli reserved.milli) := by
  unfold verdict
  rw [listed]
  dsimp only
  rw [if_neg nonzero, if_pos none_left]

theorem verdict_of_available (listed : info.node.allocatable.get? resource = some allocatable)
    (nonzero : allocatable.milli ≠ 0) (some_left : 0 < (allocatable - reserved).milli) :
    verdict info resource reserved counted = .ok (quotient counted.milli (allocatable - reserved).milli) := by
  unfold verdict
  rw [listed]
  dsimp only
  rw [if_neg nonzero, if_neg (Int.not_le.mpr some_left)]

theorem verdict_eq_ok_iff {load : Float} : verdict info resource reserved counted = .ok load ↔
    ∃ allocatable, info.node.allocatable.get? resource = some allocatable ∧ allocatable.milli ≠ 0 ∧
      0 < (allocatable - reserved).milli ∧ load = quotient counted.milli (allocatable - reserved).milli := by
  constructor
  · intro succeeded
    unfold verdict at succeeded
    split at succeeded
    · cases succeeded
    · next allocatable listed =>
      split at succeeded
      · cases succeeded
      · next nonzero =>
        split at succeeded
        · cases succeeded
        · next some_left =>
          cases succeeded
          exact ⟨allocatable, listed, nonzero, Int.not_le.mp some_left, rfl⟩
  · rintro ⟨allocatable, listed, nonzero, some_left, rfl⟩
    exact verdict_of_available listed nonzero some_left

/-- Where more is reserved and something is left, something is left. -/
theorem verdict_ok_of_le {reserved' counted' : Quantity} {load : Float} (le : reserved ≤ reserved')
    (succeeded : verdict info resource reserved' counted' = .ok load) :
    ∃ load, verdict info resource reserved counted = .ok load := by
  obtain ⟨allocatable, listed, nonzero, some_left, -⟩ := verdict_eq_ok_iff.mp succeeded
  have more := available_anti allocatable le
  exact ⟨_, verdict_of_available listed nonzero (Int.lt_of_lt_of_le some_left more)⟩

end Outcome

/-- The outcome of every ratio without negative requests, by the exact sums. A resource that is not listed is missing;
one of which nothing is allocatable is zero, whatever the pods request; one of which the reserved pods take all or more
is exhausted, and the fault carries the sum they reserve, at most the greatest amount; and otherwise the ratio is the
quotient of the counted sum, at most the greatest amount, by the exact rest, which is positive. -/
theorem ratio_of_nonneg (settings : UtilizationSettings) (now : Instant) (info : NodeInfo) (resource : String)
    (nonneg : ∀ p ∈ info.pods, ∀ q ∈ p.requests resource, 0 ≤ q.milli) :
    let counted := exactRequested settings now resource .counted info.pods
    let reserved := exactRequested settings now resource .reserved info.pods
    let outcome := ratio settings now info resource
    (outcome = .error (.missing resource info.node.name) ↔ info.node.allocatable.get? resource = none) ∧
    ∀ allocatable, info.node.allocatable.get? resource = some allocatable →
      (outcome = .error (.zero resource info.node.name) ↔ allocatable.milli = 0) ∧
      (allocatable.milli ≠ 0 →
        ((∃ a r, outcome = .error (.exhausted resource info.node.name a r)) ↔ allocatable.milli ≤ reserved) ∧
        (allocatable.milli ≤ reserved →
          outcome = .error (.exhausted resource info.node.name allocatable.milli (min reserved Quantity.maxMilli))) ∧
        (reserved < allocatable.milli →
          0 < allocatable.milli - reserved ∧
          outcome = .ok (quotient (min counted Quantity.maxMilli) (allocatable.milli - reserved)))) := by
  intro counted reserved outcome
  have reserved_nonneg : 0 ≤ reserved := exactRequested_nonneg settings now resource .reserved nonneg
  have reserved_total := requested_of_nonneg settings now resource .reserved nonneg
  have counted_total := requested_of_nonneg settings now resource .counted nonneg
  have outcome_eq : outcome = _ := ratio_eq_verdict settings now info resource
  generalize requested settings now resource .reserved info.pods = R at reserved_total outcome_eq
  generalize requested settings now resource .counted info.pods = C at counted_total outcome_eq
  rw [outcome_eq]
  refine ⟨verdict_missing_iff, fun allocatable listed => ⟨verdict_zero_iff listed, fun nonzero => ?_⟩⟩
  have sign : (allocatable - R).milli ≤ 0 ↔ allocatable.milli ≤ reserved :=
    available_nonpos_iff reserved_nonneg reserved_total
  have exhausted (taken : allocatable.milli ≤ reserved) : verdict info resource R C =
      .error (.exhausted resource info.node.name allocatable.milli (min reserved Quantity.maxMilli)) := by
    rw [verdict_of_exhausted listed nonzero (sign.mpr taken), reserved_total]
  have available (less : reserved < allocatable.milli) : verdict info resource R C =
      .ok (quotient (min counted Quantity.maxMilli) (allocatable.milli - reserved)) := by
    have some_left : 0 < (allocatable - R).milli := Int.lt_of_not_ge (mt sign.mp (Int.not_le.mpr less))
    rw [verdict_of_available listed nonzero some_left, counted_total,
      available_of_lt reserved_nonneg reserved_total less]
  refine ⟨⟨?_, fun taken => ⟨_, _, exhausted taken⟩⟩, exhausted, fun less => ⟨by omega, available less⟩⟩
  rintro ⟨a, r, fault⟩
  by_contra left
  rw [available (Int.lt_of_not_ge left)] at fault
  cases fault

/-- A node with two containers that request the greatest amount each, and a daemon set's pod. -/
def crowded : NodeInfo where
  node := { name := "crowded", allocatable := Table.ofEntries [(Resource.cpu, .saturate 2000)] }
  pods := [
    { name := "load"
      containers := [
        { name := "one", requests := Table.ofEntries [(Resource.cpu, .saturate Quantity.maxMilli)] },
        { name := "two", requests := Table.ofEntries [(Resource.cpu, .saturate Quantity.maxMilli)] }] },
    { name := "agent"
      owners := [{ kind := "DaemonSet", name := "agent", controller := true }]
      containers := [{ name := "main", requests := Table.ofEntries [(Resource.cpu, .saturate 500)] }] }]

/-- The counted sum is twice the greatest amount and counts once; the divisor is exact. -/
theorem ratio_crowded :
    (∀ p ∈ crowded.pods, ∀ q ∈ p.requests Resource.cpu, 0 ≤ q.milli) ∧
      exactRequested {} Instant.epoch Resource.cpu .counted crowded.pods = 2 * Quantity.maxMilli ∧
      ratio {} Instant.epoch crowded Resource.cpu = .ok (quotient Quantity.maxMilli 1500) := by
  have nonneg : ∀ p ∈ crowded.pods, ∀ q ∈ p.requests Resource.cpu, 0 ≤ q.milli := by decide
  have counted : exactRequested {} Instant.epoch Resource.cpu .counted crowded.pods = 2 * Quantity.maxMilli := by
    decide
  have reserved : exactRequested {} Instant.epoch Resource.cpu .reserved crowded.pods = 500 := by decide
  refine ⟨nonneg, counted, ?_⟩
  have outcomes := (ratio_of_nonneg {} Instant.epoch crowded Resource.cpu nonneg).2 (.saturate 2000) (by decide)
  have available := ((outcomes.2 (by decide)).2.2 (by rw [reserved]; decide)).2
  rw [counted, reserved] at available
  exact available

end ClusterCost.Utilization
