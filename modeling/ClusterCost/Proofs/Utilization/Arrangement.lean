import ClusterCost.Proofs.Quantity.Saturation
import ClusterCost.Utilization.Ratio

/-!
# Arrangements of pods and containers

The order of a node's pods and of the containers in a pod carries no meaning. `NodeInfo.Rearranges` relates two
arrangements of one node. Totals are saturating sums, so they may differ between arrangements, but only within a band:
`extremeRequested` gives its ends, which every arrangement keeps to (`extremeRequested_bounds`), and which one
arrangement attains for both classes of pods together (`requested_arranged`).
-/
namespace ClusterCost

def Pod.Rearranges (p p' : Pod) : Prop :=
  p.containers.Perm p'.containers ∧ p' = { p with containers := p'.containers }

/-- Two arrangements of one node: the containers of each pod in some order, and the pods in some order. -/
def NodeInfo.Rearranges (info info' : NodeInfo) : Prop :=
  info'.node = info.node ∧ ∃ pods, List.Forall₂ Pod.Rearranges info.pods pods ∧ pods.Perm info'.pods

namespace Utilization

open Quantity (Extreme extremeOrder)

variable {settings : UtilizationSettings} {now : Instant}

/-! ## What all arrangements share -/

/-- The class of a pod does not depend on its containers. -/
theorem accounting_of_rearranges {p p' : Pod} (rearranged : p.Rearranges p') :
    accounting settings now p' = accounting settings now p := by
  rw [rearranged.2]
  rfl

theorem requests_perm {p p' : Pod} (rearranged : p.Rearranges p') (resource : String) :
    (p.requests resource).Perm (p'.requests resource) :=
  rearranged.1.filterMap _

/-- The greatest or the least request that an order of the containers gives a pod. -/
def extremeRequest (e : Extreme) (resource : String) (p : Pod) : Quantity :=
  Quantity.sum (extremeOrder e (p.requests resource))

/-- The greatest or the least total of a class of pods that an arrangement gives. -/
def extremeRequested (settings : UtilizationSettings) (now : Instant) (resource : String) (wanted : Accounting)
    (e : Extreme) (pods : List Pod) : Quantity :=
  Quantity.sum (extremeOrder e
    ((pods.filter fun p => accounting settings now p = wanted).map (extremeRequest e resource)))

theorem extremeRequest_bounds (e : Extreme) (resource : String) {p p' : Pod} (rearranged : p.Rearranges p') :
    e.Bounds (extremeRequest e resource p).milli (p'.request resource).milli := by
  rw [extremeRequest, Quantity.sum_extremeOrder, e.total_perm (requests_perm rearranged resource)]
  exact e.total_bounds_sum _

/-- Every arrangement keeps to the ends. -/
theorem extremeRequested_bounds (e : Extreme) (resource : String) (wanted : Accounting) {info info' : NodeInfo}
    (rearranged : info.Rearranges info') :
    e.Bounds (extremeRequested settings now resource wanted e info.pods).milli
      (requested settings now resource wanted info'.pods).milli := by
  obtain ⟨-, pods, containers, order⟩ := rearranged
  let keep (p : Pod) : Bool := accounting settings now p = wanted
  have kept : List.Forall₂ Pod.Rearranges (info.pods.filter keep) (pods.filter keep) := by
    apply List.rel_filter _ containers
    intro p p' rearranged
    simp only [keep, decide_eq_true_eq, accounting_of_rearranges rearranged]
  have one_by_one : List.Forall₂ (fun p q => e.Bounds p.milli q.milli)
      ((info.pods.filter keep).map (extremeRequest e resource)) ((pods.filter keep).map (·.request resource)) := by
    rw [List.forall₂_map_left_iff, List.forall₂_map_right_iff]
    exact kept.imp fun p p' => extremeRequest_bounds e resource
  have same : ((pods.filter keep).map (·.request resource)).Perm ((info'.pods.filter keep).map (·.request resource)) :=
    (order.filter keep).map _
  have totals := e.total_bounds_total one_by_one
  rw [e.total_perm same] at totals
  rw [extremeRequested, Quantity.sum_extremeOrder]
  exact totals.trans (e.total_bounds_sum _)

/-- Without negative requests the ends of a total are one. -/
theorem extremeRequested_of_nonneg (e e' : Extreme) (resource : String) (wanted : Accounting) {pods : List Pod}
    (nonneg : ∀ p ∈ pods, ∀ q ∈ p.requests resource, 0 ≤ q.milli) :
    extremeRequested settings now resource wanted e pods = extremeRequested settings now resource wanted e' pods := by
  have request_eq (e : Extreme) {p : Pod} (member : p ∈ pods) :
      (extremeRequest e resource p).milli = min (Quantity.exactSum (p.requests resource)) Quantity.maxMilli := by
    rw [extremeRequest, Quantity.sum_extremeOrder, e.total_of_nonneg (nonneg p member)]
  have requests_eq : (pods.filter fun p => accounting settings now p = wanted).map (extremeRequest e resource) =
      (pods.filter fun p => accounting settings now p = wanted).map (extremeRequest e' resource) := by
    apply List.map_congr_left
    intro p kept
    have member := (List.mem_filter.mp kept).1
    apply Quantity.ext
    rw [request_eq e member, request_eq e' member]
  have requests_nonneg : ∀ q ∈ (pods.filter fun p => accounting settings now p = wanted).map
      (extremeRequest e' resource), 0 ≤ q.milli := by
    intro q within
    obtain ⟨p, kept, rfl⟩ := List.mem_map.mp within
    have member := (List.mem_filter.mp kept).1
    rw [request_eq e' member]
    exact le_min (Quantity.exactSum_nonneg (nonneg p member)) (by decide)
  apply Quantity.ext
  rw [extremeRequested, extremeRequested, requests_eq, Quantity.sum_extremeOrder, Quantity.sum_extremeOrder,
    e.total_of_nonneg requests_nonneg, e'.total_of_nonneg requests_nonneg]

/-! ## The arrangement at the ends -/

/-- A pod whose containers are in the order for an end of its requests. -/
def arrangedPod (e : Extreme) (resource : String) (p : Pod) : Pod :=
  { p with containers := leadingFirst (fun c => (c.requests.get? resource).any (e.leads ·.milli)) p.containers }

theorem rearranges_arrangedPod (e : Extreme) (resource : String) (p : Pod) :
    p.Rearranges (arrangedPod e resource p) :=
  ⟨(leadingFirst_perm _ p.containers).symm, rfl⟩

theorem request_arrangedPod (e : Extreme) (resource : String) (p : Pod) :
    (arrangedPod e resource p).request resource = extremeRequest e resource p := by
  have ordered : (arrangedPod e resource p).requests resource = extremeOrder e (p.requests resource) :=
    filterMap_leadingFirst _ _ _
  rw [Pod.request, ordered, extremeRequest]

def arrangedPods (settings : UtilizationSettings) (now : Instant) (resource : String) (reserved counted : Extreme)
    (pods : List Pod) : List Pod :=
  pods.map fun p => arrangedPod (if accounting settings now p = .reserved then reserved else counted) resource p

/-- A node with its pods and their containers arranged: the reserved requests for one end, the counted ones for another.
The two classes share no pod, so they do not get in each other's way. -/
def arranged (settings : UtilizationSettings) (now : Instant) (resource : String) (reserved counted : Extreme)
    (info : NodeInfo) : NodeInfo :=
  let pods := arrangedPods settings now resource reserved counted info.pods
  let isReserved (p : Pod) : Bool := accounting settings now p = .reserved
  { info with
    pods := leadingFirst (fun p => reserved.leads (p.request resource).milli) (pods.filter isReserved) ++
      leadingFirst (fun p => counted.leads (p.request resource).milli) (pods.filter (!isReserved ·)) }

theorem rearranges_arranged (settings : UtilizationSettings) (now : Instant) (resource : String)
    (reserved counted : Extreme) (info : NodeInfo) :
    info.Rearranges (arranged settings now resource reserved counted info) := by
  refine ⟨rfl, arrangedPods settings now resource reserved counted info.pods, ?_, ?_⟩
  · unfold arrangedPods
    rw [List.forall₂_map_right_iff, List.forall₂_same]
    exact fun p _ => rearranges_arrangedPod _ resource p
  · exact (List.filter_append_perm _ _).symm.trans
      ((leadingFirst_perm _ _).symm.append (leadingFirst_perm _ _).symm)

/-- The pods of one class, arranged, have the extreme requests in the extreme order. -/
theorem sum_arrangedPods (settings : UtilizationSettings) (now : Instant) (resource : String)
    (reserved counted e : Extreme) (wanted : Accounting) (pods : List Pod)
    (chosen : (if wanted = .reserved then reserved else counted) = e) :
    Quantity.sum ((leadingFirst (fun p => e.leads (p.request resource).milli)
        ((arrangedPods settings now resource reserved counted pods).filter
          fun p => accounting settings now p = wanted)).map (·.request resource)) =
      extremeRequested settings now resource wanted e pods := by
  have selected : (arrangedPods settings now resource reserved counted pods).filter
      (fun p => accounting settings now p = wanted) =
        (pods.filter fun p => accounting settings now p = wanted).map (arrangedPod e resource) := by
    unfold arrangedPods
    rw [List.filter_map]
    apply List.map_congr_left
    intro p member
    have accounted : accounting settings now p = wanted := by
      have kept := (List.mem_filter.mp member).2
      rw [Function.comp_apply, decide_eq_true_eq] at kept
      exact kept
    rw [accounted, chosen]
  have requests : ((pods.filter fun p => accounting settings now p = wanted).map (arrangedPod e resource)).map
      (·.request resource) =
        (pods.filter fun p => accounting settings now p = wanted).map (extremeRequest e resource) := by
    rw [List.map_map]
    exact List.map_congr_left fun p _ => request_arrangedPod e resource p
  rw [selected, map_leadingFirst (fun q => e.leads q.milli) fun p : Pod => p.request resource, requests]
  rfl

/-- The arrangement attains the chosen end of both totals. -/
theorem requested_arranged (settings : UtilizationSettings) (now : Instant) (resource : String)
    (reserved counted : Extreme) (info : NodeInfo) :
    requested settings now resource .reserved (arranged settings now resource reserved counted info).pods =
        extremeRequested settings now resource .reserved reserved info.pods ∧
      requested settings now resource .counted (arranged settings now resource reserved counted info).pods =
        extremeRequested settings now resource .counted counted info.pods := by
  have among_reserved := sum_arrangedPods settings now resource reserved counted reserved
    .reserved info.pods rfl
  have among_counted := sum_arrangedPods settings now resource reserved counted counted
    .counted info.pods rfl
  rw [← among_reserved, ← among_counted]
  have crossed (p : Pod) : (decide (accounting settings now p = .counted) &&
      decide (accounting settings now p = .reserved)) = false := by
    cases accounting settings now p with
    | counted | reserved | ignored => rfl
  have apart (p : Pod) : (decide (accounting settings now p = .counted) &&
      !decide (accounting settings now p = .reserved)) = decide (accounting settings now p = .counted) := by
    cases accounting settings now p with
    | counted | reserved | ignored => rfl
  have nothing (leads : Pod → Bool) : leadingFirst leads [] = [] := rfl
  unfold requested arranged
  dsimp only
  simp only [List.filter_append, filter_leadingFirst, List.filter_filter, crossed, apart, nothing, Bool.and_self,
    Bool.and_not_self, List.filter_false, List.append_nil, List.nil_append, and_self]

end Utilization

end ClusterCost
