import ClusterCost.Proofs.Leading
import ClusterCost.Quantity.Basic
import Mathlib.Algebra.BigOperators.Group.List.Basic
import Mathlib.Algebra.Order.BigOperators.Group.List
import Mathlib.Algebra.Ring.Int.Defs

/-!
# Saturating sums and exact sums

`Quantity.sum` keeps every partial sum within the range, so what it gives depends on the order of the summands. Its
result is compared here with two exact integers, the sum of what is above nothing (`gains`) and of what is below
(`losses`), neither of which depends on the order:

* every order gives a total from `leastSum` to `greatestSum` (`leastSum_le_sum`, `sum_le_greatestSum`);
* the two ends are attained, the least by taking the amounts that are not negative first, the greatest by taking the
  negative ones first (`sum_extremeOrder`);
* without negative amounts the ends meet, and the total is the exact sum or the greatest amount (`sum_of_nonneg`).
-/
namespace ClusterCost.Quantity

def exactSum (qs : List Quantity) : Int :=
  (qs.map (·.milli)).sum

def gains (qs : List Quantity) : Int :=
  (qs.map fun q => max q.milli 0).sum

/-- The sum of what a list takes away, in unbounded integers: a number that is not positive. -/
def losses (qs : List Quantity) : Int :=
  (qs.map fun q => min q.milli 0).sum

/-- The least total that an order of the list gives: what is added saturates first, and then all is taken away. -/
def leastSum (qs : List Quantity) : Int :=
  max minMilli (min maxMilli (gains qs) + losses qs)

/-- The greatest total that an order of the list gives: what is taken away saturates first, and then all is added. -/
def greatestSum (qs : List Quantity) : Int :=
  min maxMilli (max minMilli (losses qs) + gains qs)

@[simp]
theorem gains_nil : gains [] = 0 := rfl

@[simp]
theorem losses_nil : losses [] = 0 := rfl

theorem gains_cons (q : Quantity) (qs : List Quantity) : gains (q :: qs) = max q.milli 0 + gains qs := by
  simp [gains]

theorem losses_cons (q : Quantity) (qs : List Quantity) : losses (q :: qs) = min q.milli 0 + losses qs := by
  simp [losses]

theorem exactSum_cons (q : Quantity) (qs : List Quantity) : exactSum (q :: qs) = q.milli + exactSum qs := by
  simp [exactSum]

theorem gains_nonneg (qs : List Quantity) : 0 ≤ gains qs := by
  induction qs with
  | nil => simp
  | cons q qs ih =>
    rw [gains_cons]
    omega

theorem losses_nonpos (qs : List Quantity) : losses qs ≤ 0 := by
  induction qs with
  | nil => simp
  | cons q qs ih =>
    rw [losses_cons]
    omega

theorem gains_perm {ps qs : List Quantity} (same : ps.Perm qs) : gains ps = gains qs :=
  (same.map _).sum_eq

theorem losses_perm {ps qs : List Quantity} (same : ps.Perm qs) : losses ps = losses qs :=
  (same.map _).sum_eq

theorem leastSum_perm {ps qs : List Quantity} (same : ps.Perm qs) : leastSum ps = leastSum qs := by
  unfold leastSum
  rw [gains_perm same, losses_perm same]

theorem greatestSum_perm {ps qs : List Quantity} (same : ps.Perm qs) : greatestSum ps = greatestSum qs := by
  unfold greatestSum
  rw [gains_perm same, losses_perm same]

/-! ## The band of all orders -/

/-- A running total is never above what it is if all that is taken away comes first. One more summand moves the bound
no lower than the total, whatever its sign. -/
theorem foldl_add_le (a : Quantity) (qs : List Quantity) :
    (qs.foldl (· + ·) a).milli ≤ min maxMilli (max minMilli (a.milli + losses qs) + gains qs) := by
  induction qs generalizing a with
  | nil =>
    have low := a.minMilli_le
    have high := a.le_maxMilli
    simp only [List.foldl_nil, gains_nil, losses_nil]
    omega
  | cons q qs ih =>
    have step := add_milli a q
    have rest := ih (a + q)
    have added := gains_nonneg qs
    have taken := losses_nonpos qs
    rw [List.foldl_cons, gains_cons, losses_cons]
    rw [step] at rest
    refine Int.le_trans rest ?_
    simp only [minMilli, maxMilli]
    omega

/-- A running total is never below what it is if all that is added comes first. -/
theorem le_foldl_add (a : Quantity) (qs : List Quantity) :
    max minMilli (min maxMilli (a.milli + gains qs) + losses qs) ≤ (qs.foldl (· + ·) a).milli := by
  induction qs generalizing a with
  | nil =>
    have low := a.minMilli_le
    have high := a.le_maxMilli
    simp only [List.foldl_nil, gains_nil, losses_nil]
    omega
  | cons q qs ih =>
    have step := add_milli a q
    have rest := ih (a + q)
    have added := gains_nonneg qs
    have taken := losses_nonpos qs
    rw [List.foldl_cons, gains_cons, losses_cons]
    rw [step] at rest
    refine Int.le_trans ?_ rest
    simp only [minMilli, maxMilli]
    omega

theorem sum_le_greatestSum (qs : List Quantity) : (sum qs).milli ≤ greatestSum qs := by
  have bound := foldl_add_le 0 qs
  rw [zero_milli, Int.zero_add] at bound
  exact bound

theorem leastSum_le_sum (qs : List Quantity) : leastSum qs ≤ (sum qs).milli := by
  have bound := le_foldl_add 0 qs
  rw [zero_milli, Int.zero_add] at bound
  exact bound

/-! ## Amounts of one sign -/

theorem gains_of_nonneg {qs : List Quantity} (nonneg : ∀ q ∈ qs, 0 ≤ q.milli) : gains qs = exactSum qs := by
  unfold gains exactSum
  rw [List.map_congr_left fun q member => max_eq_left (nonneg q member)]

theorem losses_of_nonneg {qs : List Quantity} (nonneg : ∀ q ∈ qs, 0 ≤ q.milli) : losses qs = 0 := by
  induction qs with
  | nil => rfl
  | cons q qs ih =>
    have head := nonneg q List.mem_cons_self
    have tail := ih fun r member => nonneg r (List.mem_cons_of_mem q member)
    rw [losses_cons, tail]
    omega

theorem gains_of_nonpos {qs : List Quantity} (nonpos : ∀ q ∈ qs, q.milli ≤ 0) : gains qs = 0 := by
  induction qs with
  | nil => rfl
  | cons q qs ih =>
    have head := nonpos q List.mem_cons_self
    have tail := ih fun r member => nonpos r (List.mem_cons_of_mem q member)
    rw [gains_cons, tail]
    omega

theorem exactSum_nonneg {qs : List Quantity} (nonneg : ∀ q ∈ qs, 0 ≤ q.milli) : 0 ≤ exactSum qs := by
  rw [← gains_of_nonneg nonneg]
  exact gains_nonneg qs

/-- Where nothing is taken away, a running total is exact until it reaches the greatest amount, and stays there. -/
theorem foldl_add_of_nonneg (a : Quantity) {qs : List Quantity} (nonneg : ∀ q ∈ qs, 0 ≤ q.milli) :
    (qs.foldl (· + ·) a).milli = min maxMilli (a.milli + gains qs) := by
  have above := foldl_add_le a qs
  have below := le_foldl_add a qs
  have low := a.minMilli_le
  have added := gains_nonneg qs
  rw [losses_of_nonneg nonneg] at above below
  simp only [minMilli, maxMilli] at above below low ⊢
  omega

/-- Where nothing is added, a running total is exact until it reaches the least amount, and stays there. -/
theorem foldl_add_of_nonpos (a : Quantity) {qs : List Quantity} (nonpos : ∀ q ∈ qs, q.milli ≤ 0) :
    (qs.foldl (· + ·) a).milli = max minMilli (a.milli + losses qs) := by
  have above := foldl_add_le a qs
  have below := le_foldl_add a qs
  have high := a.le_maxMilli
  have taken := losses_nonpos qs
  rw [gains_of_nonpos nonpos] at above below
  simp only [minMilli, maxMilli] at above below high ⊢
  omega

/-- Amounts that are not negative add up to their exact sum, or to the greatest amount if that is beyond the range. -/
theorem sum_of_nonneg {qs : List Quantity} (nonneg : ∀ q ∈ qs, 0 ≤ q.milli) :
    (sum qs).milli = min (exactSum qs) maxMilli := by
  have total := foldl_add_of_nonneg 0 nonneg
  rw [zero_milli, Int.zero_add, gains_of_nonneg nonneg, min_comm] at total
  exact total

theorem sum_nonneg {qs : List Quantity} (nonneg : ∀ q ∈ qs, 0 ≤ q.milli) : 0 ≤ (sum qs).milli := by
  have exact_nonneg := exactSum_nonneg nonneg
  rw [sum_of_nonneg nonneg]
  simp only [maxMilli]
  omega

theorem exactSum_append (ps qs : List Quantity) : exactSum (ps ++ qs) = exactSum ps + exactSum qs := by
  simp [exactSum]

/-- Sums of sums: where nothing is negative, adding up group by group saturates exactly where adding up all at once
does. A group that saturated has already brought the total to the greatest amount. -/
theorem sum_sums_of_nonneg {groups : List (List Quantity)} (nonneg : ∀ qs ∈ groups, ∀ q ∈ qs, 0 ≤ q.milli) :
    (sum (groups.map sum)).milli = min (exactSum groups.flatten) maxMilli := by
  have sums_nonneg : ∀ q ∈ groups.map sum, 0 ≤ q.milli := by
    intro q member
    obtain ⟨qs, within, rfl⟩ := List.mem_map.mp member
    exact sum_nonneg (nonneg qs within)
  rw [sum_of_nonneg sums_nonneg]
  induction groups with
  | nil => rfl
  | cons qs groups ih =>
    have head := nonneg qs List.mem_cons_self
    have tail : ∀ rs ∈ groups, ∀ q ∈ rs, 0 ≤ q.milli := fun rs within => nonneg rs (List.mem_cons_of_mem qs within)
    have rest := ih tail fun q member => sums_nonneg q (List.mem_cons_of_mem _ member)
    have head_nonneg := exactSum_nonneg head
    have flat_nonneg : 0 ≤ exactSum groups.flatten := by
      apply exactSum_nonneg
      intro q member
      obtain ⟨rs, within, inside⟩ := List.mem_flatten.mp member
      exact tail rs within q inside
    rw [List.map_cons, exactSum_cons, List.flatten_cons, exactSum_append, sum_of_nonneg head]
    simp only [maxMilli] at rest ⊢
    omega

/-! ## The orders at the ends of the band -/

/-- Which end of the band an order is chosen for. -/
inductive Extreme where
  | least
  | greatest
  deriving DecidableEq, Repr

/-- Whether an amount comes in the first half of the order for an end: before the least total all is added, before the
greatest all is taken away. -/
def Extreme.leads : Extreme → Int → Bool
  | .least, n => 0 ≤ n
  | .greatest, n => n < 0

/-- The end of the band that an order is chosen for. -/
def Extreme.total : Extreme → List Quantity → Int
  | .least, qs => leastSum qs
  | .greatest, qs => greatestSum qs

/-- A list in the order for an end of the band, both halves of it as they were. -/
def extremeOrder (e : Extreme) (qs : List Quantity) : List Quantity :=
  leadingFirst (e.leads ·.milli) qs

theorem extremeOrder_perm (e : Extreme) (qs : List Quantity) : (extremeOrder e qs).Perm qs :=
  leadingFirst_perm _ qs

theorem gains_append (ps qs : List Quantity) : gains (ps ++ qs) = gains ps + gains qs := by
  simp [gains]

theorem losses_append (ps qs : List Quantity) : losses (ps ++ qs) = losses ps + losses qs := by
  simp [losses]

/-- Amounts that are not negative, and then amounts that are not positive: the total saturates at most twice. -/
theorem sum_rising_falling {ps qs : List Quantity} (rising : ∀ q ∈ ps, 0 ≤ q.milli)
    (falling : ∀ q ∈ qs, q.milli ≤ 0) : (sum (ps ++ qs)).milli = leastSum (ps ++ qs) := by
  have first := foldl_add_of_nonneg 0 rising
  have second := foldl_add_of_nonpos (ps.foldl (· + ·) 0) falling
  unfold sum leastSum
  rw [List.foldl_append, second, first, zero_milli, gains_append, losses_append, gains_of_nonpos falling,
    losses_of_nonneg rising]
  simp only [Int.zero_add, Int.add_zero]

/-- Amounts that are not positive, and then amounts that are not negative: the total saturates at most twice. -/
theorem sum_falling_rising {ps qs : List Quantity} (falling : ∀ q ∈ ps, q.milli ≤ 0)
    (rising : ∀ q ∈ qs, 0 ≤ q.milli) : (sum (ps ++ qs)).milli = greatestSum (ps ++ qs) := by
  have first := foldl_add_of_nonpos 0 falling
  have second := foldl_add_of_nonneg (ps.foldl (· + ·) 0) rising
  unfold sum greatestSum
  rw [List.foldl_append, second, first, zero_milli, gains_append, losses_append, gains_of_nonpos falling,
    losses_of_nonneg rising]
  simp only [Int.zero_add, Int.add_zero]

/-- The order for an end of the band attains it. -/
theorem sum_extremeOrder (e : Extreme) (qs : List Quantity) : (sum (extremeOrder e qs)).milli = e.total qs := by
  have same := extremeOrder_perm e qs
  cases e with
  | least =>
    rw [Extreme.total, ← leastSum_perm same]
    apply sum_rising_falling
    · intro q member
      simpa [Extreme.leads] using (List.mem_filter.mp member).2
    · intro q member
      have negative := (List.mem_filter.mp member).2
      simp only [Extreme.leads, Bool.not_eq_true', decide_eq_false_iff_not] at negative
      omega
  | greatest =>
    rw [Extreme.total, ← greatestSum_perm same]
    apply sum_falling_rising
    · intro q member
      have negative := (List.mem_filter.mp member).2
      simp only [Extreme.leads, decide_eq_true_eq] at negative
      omega
    · intro q member
      simpa [Extreme.leads] using (List.mem_filter.mp member).2

theorem exactSum_perm {ps qs : List Quantity} (same : ps.Perm qs) : exactSum ps = exactSum qs :=
  (same.map _).sum_eq

/-- Where nothing is taken away, the two ends are one. -/
theorem Extreme.total_of_nonneg (e : Extreme) {qs : List Quantity} (nonneg : ∀ q ∈ qs, 0 ≤ q.milli) :
    e.total qs = min (exactSum qs) maxMilli := by
  have same := extremeOrder_perm e qs
  rw [← sum_extremeOrder, sum_of_nonneg fun q member => nonneg q (same.mem_iff.mp member), exactSum_perm same]

/-! ## Bounds on either side -/

/-- A number bounds another one on the side of an end. -/
def Extreme.Bounds : Extreme → Int → Int → Prop
  | .least, bound, n => bound ≤ n
  | .greatest, bound, n => n ≤ bound

theorem Extreme.Bounds.trans {e : Extreme} {m n k : Int} (first : e.Bounds m n) (second : e.Bounds n k) :
    e.Bounds m k := by
  cases e with
  | least => exact Int.le_trans first second
  | greatest => exact Int.le_trans second first

/-- The end of the band bounds the total of the list. -/
theorem Extreme.total_bounds_sum (e : Extreme) (qs : List Quantity) : e.Bounds (e.total qs) (sum qs).milli := by
  cases e with
  | least => exact leastSum_le_sum qs
  | greatest => exact sum_le_greatestSum qs

theorem Extreme.total_perm (e : Extreme) {ps qs : List Quantity} (same : ps.Perm qs) : e.total ps = e.total qs := by
  cases e with
  | least => exact leastSum_perm same
  | greatest => exact greatestSum_perm same

theorem gains_mono {ps qs : List Quantity} (le : List.Forall₂ (· ≤ ·) ps qs) : gains ps ≤ gains qs := by
  induction le with
  | nil => exact Int.le_refl 0
  | cons head _ ih =>
    rw [le_def] at head
    rw [gains_cons, gains_cons]
    omega

theorem losses_mono {ps qs : List Quantity} (le : List.Forall₂ (· ≤ ·) ps qs) : losses ps ≤ losses qs := by
  induction le with
  | nil => exact Int.le_refl 0
  | cons head _ ih =>
    rw [le_def] at head
    rw [losses_cons, losses_cons]
    omega

/-- Amounts that are bounded one by one have ends that are bounded. -/
theorem Extreme.total_bounds_total (e : Extreme) {ps qs : List Quantity}
    (bounds : List.Forall₂ (fun p q => e.Bounds p.milli q.milli) ps qs) : e.Bounds (e.total ps) (e.total qs) := by
  cases e with
  | least =>
    have added := gains_mono bounds
    have taken := losses_mono bounds
    change leastSum ps ≤ leastSum qs
    unfold leastSum
    omega
  | greatest =>
    have added := gains_mono bounds.flip
    have taken := losses_mono bounds.flip
    change greatestSum qs ≤ greatestSum ps
    unfold greatestSum
    omega

end ClusterCost.Quantity
