import ClusterCost.Proofs.Quantity.Saturation
import Mathlib.Data.List.Infix

/-!
# Sums that do not depend on how they are formed

A saturating sum loses something only where a partial sum leaves the range. `foldl_add_of_inits` says that for a list of
any sign whose partial sums all stay in the range: it adds up to its exact sum. Where no amount is negative, a sum that
has left the range stays at the greatest amount, so neither the order nor the grouping matters
(`sum_sums_of_regrouped`). `sum_exact_or_greatest` puts both together.
-/
namespace ClusterCost.Quantity

/-- Every partial sum of the list, in unbounded integers, is in the range. -/
def StaysInRange (qs : List Quantity) : Prop :=
  ∀ ps ∈ qs.inits, minMilli ≤ exactSum ps ∧ exactSum ps ≤ maxMilli

instance (qs : List Quantity) : Decidable (StaysInRange qs) :=
  inferInstanceAs (Decidable (∀ ps ∈ qs.inits, minMilli ≤ exactSum ps ∧ exactSum ps ≤ maxMilli))

/-- A running total is exact as long as it stays in the range. By induction on the amounts that are left: the first one
is added exactly, and the partial sums of the others go on from there. -/
theorem foldl_add_of_inits (a : Quantity) (qs : List Quantity)
    (within : ∀ ps ∈ qs.inits, minMilli ≤ a.milli + exactSum ps ∧ a.milli + exactSum ps ≤ maxMilli) :
    (qs.foldl (· + ·) a).milli = a.milli + exactSum qs := by
  induction qs generalizing a with
  | nil => exact (Int.add_zero a.milli).symm
  | cons q qs ih =>
    have longer {ps : List Quantity} (member : ps ∈ qs.inits) : q :: ps ∈ (q :: qs).inits := by
      rw [List.mem_inits] at member ⊢
      exact List.cons_prefix_cons.mpr ⟨rfl, member⟩
    have step : (a + q).milli = a.milli + q.milli := by
      have first := within [q] (longer ((List.mem_inits [] qs).mpr List.nil_prefix))
      rw [exactSum_cons, show exactSum [] = 0 from rfl, Int.add_zero] at first
      exact saturate_of_mem first.1 first.2
    have rest : (qs.foldl (· + ·) (a + q)).milli = (a + q).milli + exactSum qs := by
      refine ih (a + q) fun ps member => ?_
      have bounds := within (q :: ps) (longer member)
      rw [exactSum_cons] at bounds
      rw [step]
      omega
    rw [List.foldl_cons, rest, step, exactSum_cons, Int.add_assoc]

/-- Partial sums that stay in the range lose nothing. -/
theorem sum_of_staysInRange {qs : List Quantity} (within : StaysInRange qs) : (sum qs).milli = exactSum qs := by
  have total := foldl_add_of_inits 0 qs fun ps member => by
    rw [zero_milli, Int.zero_add]
    exact within ps member
  rw [zero_milli, Int.zero_add] at total
  exact total

/-- Amounts that are not negative have one total in all orders and groupings. -/
theorem sum_sums_of_regrouped {groups groups' : List (List Quantity)}
    (nonneg : ∀ qs ∈ groups, ∀ q ∈ qs, 0 ≤ q.milli) (same : groups'.flatten.Perm groups.flatten) :
    (sum (groups'.map sum)).milli = min (exactSum groups.flatten) maxMilli := by
  have nonneg' : ∀ qs ∈ groups', ∀ q ∈ qs, 0 ≤ q.milli := by
    rw [← List.forall_mem_flatten] at nonneg ⊢
    exact fun q member => nonneg q (same.mem_iff.mp member)
  rw [sum_sums_of_nonneg nonneg', exactSum_perm same]

/-- Amounts of any sign add up to their exact sum if every partial sum is in the range. Amounts that are not negative
add up to their exact sum, or to the greatest amount if that is beyond the range: group by group, all at once in any
order, and group by group in any other grouping. -/
theorem sum_exact_or_greatest :
    (∀ qs : List Quantity, StaysInRange qs → (sum qs).milli = exactSum qs) ∧
      ∀ groups : List (List Quantity), (∀ qs ∈ groups, ∀ q ∈ qs, 0 ≤ q.milli) →
        let total := min (exactSum groups.flatten) maxMilli
        (sum (groups.map sum)).milli = total ∧
          (∀ qs, qs.Perm groups.flatten → (sum qs).milli = total) ∧
          ∀ groups' : List (List Quantity), groups'.flatten.Perm groups.flatten →
            (sum (groups'.map sum)).milli = total := by
  refine ⟨fun qs within => sum_of_staysInRange within, fun groups nonneg => ?_⟩
  refine ⟨sum_sums_of_nonneg nonneg, fun qs same => ?_, fun groups' same => sum_sums_of_regrouped nonneg same⟩
  have flat_nonneg := List.forall_mem_flatten.mpr nonneg
  have qs_nonneg : ∀ q ∈ qs, 0 ≤ q.milli := fun q member => flat_nonneg q (same.mem_iff.mp member)
  rw [sum_of_nonneg qs_nonneg, exactSum_perm same]

/-- A total that reaches both ends of the range and is exact, and groups of which the first one saturates. -/
theorem sum_at_the_ends :
    let swinging := [saturate maxMilli, saturate (-maxMilli), saturate minMilli, saturate 7]
    let groups := [[saturate maxMilli, saturate 1], [saturate 2, saturate 0]]
    StaysInRange swinging ∧ (sum swinging).milli = minMilli + 7 ∧
      (∀ qs ∈ groups, ∀ q ∈ qs, 0 ≤ q.milli) ∧ (sum (groups.map sum)).milli = maxMilli ∧
      (sum groups.flatten.reverse).milli = maxMilli := by
  intro swinging groups
  have within : StaysInRange swinging := by decide
  have nonneg : ∀ qs ∈ groups, ∀ q ∈ qs, 0 ≤ q.milli := by decide
  have total : min (exactSum groups.flatten) maxMilli = maxMilli := by decide
  have grouped := sum_exact_or_greatest.2 groups nonneg
  exact ⟨within, (sum_exact_or_greatest.1 swinging within).trans (by decide), nonneg, grouped.1.trans total,
    (grouped.2.1 _ (List.reverse_perm _)).trans total⟩

end ClusterCost.Quantity
