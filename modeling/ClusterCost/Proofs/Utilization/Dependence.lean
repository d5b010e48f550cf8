import ClusterCost.Proofs.Utilization.Load
import ClusterCost.Proofs.Utilization.Mode

/-!
# What a utilization may depend on

Two runs of an assessment with the same answer. `NodeInfo.AssessedAlike` says on which parts two nodes with their pods
have to agree: on the name, on having graphics processors, on what is allocatable of the resources that decide, and, pod
by pod, on the classes and on the requests of these resources. The pods that are ignored may be any, at any places.

A total runs over the pods that are left when the ignored ones are struck out (`requested_active`), and lists of pods
that agree one by one have equal totals (`requested_eq_of_alike`, by induction on both lists at once).
`assess_congr` carries this through ratios and modes; nothing is assumed of the signs or the sizes of requests.
`assess_dependence` adds what can be exchanged without changing an assessment.
-/
namespace ClusterCost

namespace Utilization

def active (settings : UtilizationSettings) (now : Instant) (pods : List Pod) : List Pod :=
  pods.filter fun p => accounting settings now p ≠ .ignored

/-- The resources that decide about a node: its graphics processors if it carries some, and otherwise its processors and
its memory. -/
def Decides (settings : UtilizationSettings) (n : Node) (resource : String) : Prop :=
  n.CarriesGpu settings.gpuLabel ∧ resource = Resource.gpu ∨
    ¬n.CarriesGpu settings.gpuLabel ∧ (resource = Resource.cpu ∨ resource = Resource.memory)

/-- Two pods of one class with equal requests of some resources. -/
def PodsAlike (settings : UtilizationSettings) (now : Instant) (relevant : String → Prop) (p p' : Pod) : Prop :=
  accounting settings now p = accounting settings now p' ∧
    ∀ resource, relevant resource → p.request resource = p'.request resource

end Utilization

open Utilization in
/-- Two nodes with their pods that no assessment tells apart. -/
structure NodeInfo.AssessedAlike (settings : UtilizationSettings) (now : Instant) (info info' : NodeInfo) : Prop where
  name : info.node.name = info'.node.name
  carriesGpu : info.node.CarriesGpu settings.gpuLabel ↔ info'.node.CarriesGpu settings.gpuLabel
  allocatable : ∀ resource, Decides settings info.node resource →
    info.node.allocatable.get? resource = info'.node.allocatable.get? resource
  pods : List.Forall₂ (PodsAlike settings now (Decides settings info.node))
    (active settings now info.pods) (active settings now info'.pods)

namespace Utilization

variable {settings : UtilizationSettings} {now : Instant}

/-! ## Totals -/

section Totals

variable {relevant : String → Prop} {resource : String} {wanted : Accounting}

/-- An ignored pod has no place among the active ones. -/
theorem active_ignored {p : Pod} (ignored : accounting settings now p = .ignored) (before after : List Pod) :
    active settings now (before ++ p :: after) = active settings now (before ++ after) := by
  unfold active
  rw [List.filter_append, List.filter_cons_of_neg (by simpa using ignored), ← List.filter_append]

/-- The total of a class that counts is that of the active pods. -/
theorem requested_active (resource : String) (counts : wanted ≠ .ignored) (pods : List Pod) :
    requested settings now resource wanted (active settings now pods) =
      requested settings now resource wanted pods := by
  have kept (p : Pod) : (decide (accounting settings now p = wanted) && decide (accounting settings now p ≠ .ignored)) =
      decide (accounting settings now p = wanted) := by
    by_cases same : accounting settings now p = wanted
    · rw [same, decide_eq_true counts, Bool.and_true]
    · rw [decide_eq_false same, Bool.false_and]
  unfold requested active
  rw [List.filter_filter, funext kept]

/-- Pods that agree one by one request the same of every class, request by request. -/
theorem requests_of_alike {pods pods' : List Pod} (decided : relevant resource)
    (alike : List.Forall₂ (PodsAlike settings now relevant) pods pods') :
    (pods.filter fun p => accounting settings now p = wanted).map (·.request resource) =
      (pods'.filter fun p => accounting settings now p = wanted).map (·.request resource) := by
  induction alike with
  | nil => rfl
  | @cons p p' pods pods' head tail ih =>
    obtain ⟨same_class, same_requests⟩ := head
    by_cases kept : accounting settings now p = wanted
    · have kept' : accounting settings now p' = wanted := same_class ▸ kept
      rw [List.filter_cons_of_pos (by simpa using kept), List.filter_cons_of_pos (by simpa using kept'), List.map_cons,
        List.map_cons, same_requests resource decided, ih]
    · have dropped' : ¬accounting settings now p' = wanted := same_class ▸ kept
      rw [List.filter_cons_of_neg (by simpa using kept), List.filter_cons_of_neg (by simpa using dropped'), ih]

theorem requested_eq_of_alike {pods pods' : List Pod} (counts : wanted ≠ .ignored) (decided : relevant resource)
    (alike : List.Forall₂ (PodsAlike settings now relevant) (active settings now pods) (active settings now pods')) :
    requested settings now resource wanted pods = requested settings now resource wanted pods' := by
  rw [← requested_active resource counts pods, ← requested_active resource counts pods']
  unfold requested
  rw [requests_of_alike decided alike]

end Totals

/-! ## Ratios and assessments -/

section Runs

variable {info info' : NodeInfo}

/-- A verdict names the node and looks one amount up. -/
theorem verdict_congr {resource : String} (name : info.node.name = info'.node.name)
    (listed : info.node.allocatable.get? resource = info'.node.allocatable.get? resource)
    (reserved counted : Quantity) : verdict info resource reserved counted = verdict info' resource reserved counted := by
  unfold verdict
  rw [name, listed]

/-- Nodes that are assessed alike have one ratio of every resource that decides. -/
theorem ratio_congr (alike : info.AssessedAlike settings now info') {resource : String}
    (decided : Decides settings info.node resource) :
    ratio settings now info resource = ratio settings now info' resource := by
  have reserved : requested settings now resource .reserved info.pods =
      requested settings now resource .reserved info'.pods := requested_eq_of_alike (by decide) decided alike.pods
  have counted : requested settings now resource .counted info.pods =
      requested settings now resource .counted info'.pods := requested_eq_of_alike (by decide) decided alike.pods
  rw [ratio_eq_verdict, ratio_eq_verdict, reserved, counted,
    verdict_congr alike.name (alike.allocatable resource decided)]

/-- Nodes that are assessed alike have one assessment: the same result or fault, and the same notices. -/
theorem assess_congr (alike : info.AssessedAlike settings now info') :
    assess settings now info = assess settings now info' := by
  by_cases carries : info.node.CarriesGpu settings.gpuLabel
  · have gpu := ratio_congr alike (.inl ⟨carries, rfl⟩)
    rw [assess_of_carriesGpu carries, assess_of_carriesGpu (alike.carriesGpu.mp carries)]
    unfold assessGpu
    rw [gpu, alike.name]
  · have cpu := ratio_congr alike (.inr ⟨carries, .inl rfl⟩)
    have memory := ratio_congr alike (.inr ⟨carries, .inr rfl⟩)
    rw [assess_of_not_carriesGpu carries, assess_of_not_carriesGpu (mt alike.carriesGpu.mpr carries)]
    unfold assessLoads
    rw [cpu, memory]

end Runs

/-! ## What an assessment leaves out -/

section Exchange

theorem PodsAlike.refl (relevant : String → Prop) (p : Pod) : PodsAlike settings now relevant p p :=
  ⟨rfl, fun _ _ => rfl⟩

def exchangeContainers (containers : Pod → List Container) (pods : List Pod) : List Pod :=
  pods.map fun p => { p with containers := containers p }

/-- Other containers with the same requests of the relevant resources leave the active pods alike. -/
theorem alike_exchangeContainers {relevant : String → Prop} (containers : Pod → List Container) (pods : List Pod)
    (same : ∀ p ∈ pods, ∀ resource, relevant resource →
      Pod.request { p with containers := containers p } resource = p.request resource) :
    List.Forall₂ (PodsAlike settings now relevant) (active settings now (exchangeContainers containers pods))
      (active settings now pods) := by
  have classes : active settings now (exchangeContainers containers pods) =
      exchangeContainers containers (active settings now pods) := by
    unfold active exchangeContainers
    rw [List.filter_map]
    rfl
  rw [classes]
  unfold exchangeContainers
  rw [List.forall₂_map_left_iff, List.forall₂_same]
  intro p member
  -- The class of a pod does not depend on its containers.
  exact ⟨rfl, same p (List.mem_filter.mp member).1⟩

/-- A node that changes in parts that do not decide, with pods that are alike. -/
theorem assessedAlike_of_parts {n n' : Node} {pods pods' : List Pod} (name : n'.name = n.name)
    (carriesGpu : n'.CarriesGpu settings.gpuLabel ↔ n.CarriesGpu settings.gpuLabel)
    (allocatable : ∀ resource, Decides settings n resource →
      n'.allocatable.get? resource = n.allocatable.get? resource)
    (alike : List.Forall₂ (PodsAlike settings now (Decides settings n)) (active settings now pods')
      (active settings now pods)) :
    NodeInfo.AssessedAlike settings now ⟨n', pods'⟩ ⟨n, pods⟩ := by
  have decides_eq : Decides settings n' = Decides settings n := by
    funext resource
    unfold Decides
    rw [carriesGpu]
  refine ⟨name, carriesGpu, ?_, ?_⟩
  · rw [decides_eq]
    exact allocatable
  · rw [decides_eq]
    exact alike

theorem decides_iff_of_carriesGpu {n : Node} {resource : String} (carries : n.CarriesGpu settings.gpuLabel) :
    Decides settings n resource ↔ resource = Resource.gpu := by
  simp [Decides, carries]

theorem decides_iff_of_not_carriesGpu {n : Node} {resource : String} (bare : ¬n.CarriesGpu settings.gpuLabel) :
    Decides settings n resource ↔ resource = Resource.cpu ∨ resource = Resource.memory := by
  simp [Decides, bare]

theorem carriesGpu_allocatable {gpuLabel : String} {n : Node} {allocatable : Resources}
    (same : allocatable.get? Resource.gpu = n.allocatable.get? Resource.gpu) :
    Node.CarriesGpu gpuLabel { n with allocatable } ↔ n.CarriesGpu gpuLabel := by
  unfold Node.CarriesGpu
  rw [same]

theorem carriesGpu_pods_alike {n : Node} {pods : List Pod} {allocatable : Resources} {containers : Pod → List Container}
    (carries : n.CarriesGpu settings.gpuLabel)
    (same_allocatable : allocatable.get? Resource.gpu = n.allocatable.get? Resource.gpu)
    (same_requests : ∀ p ∈ pods,
      Pod.request { p with containers := containers p } Resource.gpu = p.request Resource.gpu) :
    NodeInfo.AssessedAlike settings now ⟨{ n with allocatable }, exchangeContainers containers pods⟩ ⟨n, pods⟩ := by
  refine assessedAlike_of_parts rfl (carriesGpu_allocatable same_allocatable) ?_ ?_
  · intro resource decided
    obtain rfl := (decides_iff_of_carriesGpu carries).mp decided
    exact same_allocatable
  · apply alike_exchangeContainers
    intro p member resource decided
    obtain rfl := (decides_iff_of_carriesGpu carries).mp decided
    exact same_requests p member

theorem bare_pods_alike {n : Node} {pods : List Pod} {containers : Pod → List Container}
    (bare : ¬n.CarriesGpu settings.gpuLabel)
    (same_requests : ∀ p ∈ pods, ∀ resource ∈ [Resource.cpu, Resource.memory],
      Pod.request { p with containers := containers p } resource = p.request resource) :
    NodeInfo.AssessedAlike settings now ⟨n, exchangeContainers containers pods⟩ ⟨n, pods⟩ := by
  refine assessedAlike_of_parts rfl Iff.rfl (fun _ _ => rfl) (alike_exchangeContainers containers pods ?_)
  intro p member resource decided
  have listed : resource ∈ [Resource.cpu, Resource.memory] := by
    simpa using (decides_iff_of_not_carriesGpu bare).mp decided
  exact same_requests p member resource listed

end Exchange

/-- What an assessment may depend on. Nodes that are assessed alike have one assessment. So these can be exchanged without
changing its result or its notices: pods that are ignored, at any place and with any requests; on a node that carries
graphics processors, all that is allocatable or requested of other resources; on any other node, all that is requested of
other resources than processors and memory; and the labels, the capacity and the other allocatable resources of a node, as
long as they do not decide whether it carries graphics processors. -/
theorem assess_dependence (settings : UtilizationSettings) (now : Instant) :
    (∀ info info' : NodeInfo, info.AssessedAlike settings now info' →
      assess settings now info = assess settings now info') ∧
    -- Ignored pods.
    (∀ (n : Node) (before after : List Pod) (p : Pod), accounting settings now p = .ignored →
      assess settings now ⟨n, before ++ p :: after⟩ = assess settings now ⟨n, before ++ after⟩) ∧
    -- Resources that do not decide.
    (∀ (n : Node) (pods : List Pod) allocatable containers, n.CarriesGpu settings.gpuLabel →
      allocatable.get? Resource.gpu = n.allocatable.get? Resource.gpu →
      (∀ p ∈ pods, Pod.request { p with containers := containers p } Resource.gpu = p.request Resource.gpu) →
      assess settings now ⟨{ n with allocatable }, exchangeContainers containers pods⟩ =
        assess settings now ⟨n, pods⟩) ∧
    (∀ (n : Node) (pods : List Pod) containers, ¬n.CarriesGpu settings.gpuLabel →
      (∀ p ∈ pods, ∀ resource ∈ [Resource.cpu, Resource.memory],
        Pod.request { p with containers := containers p } resource = p.request resource) →
      assess settings now ⟨n, exchangeContainers containers pods⟩ = assess settings now ⟨n, pods⟩) ∧
    -- Parts of a node.
    (∀ (n : Node) (pods : List Pod) labels capacity allocatable,
      (Node.CarriesGpu settings.gpuLabel { n with labels, capacity, allocatable } ↔
        n.CarriesGpu settings.gpuLabel) →
      (∀ resource, Decides settings n resource → allocatable.get? resource = n.allocatable.get? resource) →
      assess settings now ⟨{ n with labels, capacity, allocatable }, pods⟩ = assess settings now ⟨n, pods⟩) := by
  refine ⟨fun info info' alike => assess_congr alike, ?_, ?_, ?_, ?_⟩
  · intro n before after p ignored
    refine assess_congr (assessedAlike_of_parts rfl Iff.rfl (fun _ _ => rfl) ?_)
    rw [active_ignored ignored, List.forall₂_same]
    exact fun r _ => PodsAlike.refl _ r
  · intro n pods allocatable containers carries same_allocatable same_requests
    exact assess_congr (carriesGpu_pods_alike carries same_allocatable same_requests)
  · intro n pods containers bare same_requests
    exact assess_congr (bare_pods_alike bare same_requests)
  · intro n pods labels capacity allocatable carriesGpu same_allocatable
    refine assess_congr (assessedAlike_of_parts rfl carriesGpu same_allocatable ?_)
    rw [List.forall₂_same]
    exact fun p _ => PodsAlike.refl _ p

/-- A pod that has been stopping since the epoch, and gives back more than a node has. -/
def lingeringPod : Pod where
  name := "lingering"
  containers := [{ name := "main", requests := Table.ofEntries [(Resource.cpu, .saturate Quantity.minMilli)] }]
  deletionTime := some 0

def servingPod : Pod where
  name := "serving"
  containers := [{ name := "main", requests := Table.ofEntries [(Resource.cpu, .saturate 1000)] }]

def acceleratedPod : Pod :=
  { servingPod with
    containers := servingPod.containers ++
      [{ name := "sidecar", requests := Table.ofEntries [(Resource.gpu, .ofUnits 8)] }] }

def plainInfo : NodeInfo where
  node := {
    name := "plain"
    allocatable := Table.ofEntries [(Resource.cpu, .saturate 2000), (Resource.memory, .ofUnits 1)] }
  pods := [servingPod]

/-- The node with a label, a capacity and disks, on which the pod waits for graphics processors that there are not. -/
def crowdedInfo : NodeInfo where
  node := {
    name := "plain"
    labels := Table.ofEntries [(Label.spot, "true")]
    capacity := Table.ofEntries [(Resource.cpu, .saturate 4000)]
    allocatable := Table.ofEntries [
      ("ephemeral-storage", .ofUnits 100), (Resource.cpu, .saturate 2000), (Resource.memory, .ofUnits 1)] }
  pods := [lingeringPod, acceleratedPod]

/-- A time when the lingering pod is ignored. -/
def afterOvertime : Instant :=
  (Instant.epoch.addSeconds? 331).getD Instant.epoch

/-- Two nodes that differ in an ignored pod, in requests of graphics processors and in parts of the node are assessed
alike. -/
theorem assess_crowdedInfo :
    plainInfo.AssessedAlike {} afterOvertime crowdedInfo ∧
      accounting {} afterOvertime lingeringPod = .ignored ∧
      assess {} afterOvertime plainInfo = assess {} afterOvertime crowdedInfo := by
  have bare : ¬plainInfo.node.CarriesGpu Label.gpu := mt (Node.hasGpu_iff _ _).mpr (by decide)
  have bare' : ¬crowdedInfo.node.CarriesGpu Label.gpu := mt (Node.hasGpu_iff _ _).mpr (by decide)
  have ignored : accounting {} afterOvertime lingeringPod = .ignored := by decide
  have requests : ∀ resource, resource = Resource.cpu ∨ resource = Resource.memory →
      servingPod.request resource = acceleratedPod.request resource := by
    rintro resource (rfl | rfl) <;> decide
  have allocatable : ∀ resource, resource = Resource.cpu ∨ resource = Resource.memory →
      plainInfo.node.allocatable.get? resource = crowdedInfo.node.allocatable.get? resource := by
    rintro resource (rfl | rfl) <;> decide
  have alike : plainInfo.AssessedAlike {} afterOvertime crowdedInfo := by
    refine ⟨rfl, iff_of_false bare bare', fun resource decided => ?_, ?_⟩
    · exact allocatable resource ((decides_iff_of_not_carriesGpu bare).mp decided)
    · rw [show active {} afterOvertime plainInfo.pods = [servingPod] by decide,
        show active {} afterOvertime crowdedInfo.pods = [acceleratedPod] by decide]
      refine .cons ⟨rfl, fun resource decided => ?_⟩ .nil
      exact requests resource ((decides_iff_of_not_carriesGpu bare).mp decided)
  exact ⟨alike, ignored, (assess_dependence {} afterOvertime).1 plainInfo crowdedInfo alike⟩

end Utilization

end ClusterCost
