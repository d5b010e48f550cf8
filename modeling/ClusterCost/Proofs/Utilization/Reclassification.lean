import ClusterCost.Proofs.Snapshot.Lifecycle
import ClusterCost.Proofs.Utilization.Load
import ClusterCost.Proofs.Utilization.Mode

/-!
# Pods that change their class

The class of a pod depends on the clock and on two settings. As time passes, all that can happen to a pod is that it
stops counting, since it has been stopping for too long (`accounting_later`). With more kinds of pods taken for a part of
the machine, all that can happen is that it becomes reserved, whether it counted before or was ignored
(`accounting_skipping`).

Both changes are one comparison of two classifications of the same pods: totals of a class that loses pods do not grow
where no request is negative (`exactRequested_le`, by induction on the pods), and those of a class that keeps its pods
stay (`requested_congr`). `assess_later` and `assess_skipping` say what this does to ratios and assessments.
-/
namespace ClusterCost

def NodeInfo.RequestsNonneg (info : NodeInfo) : Prop :=
  ∀ p ∈ info.pods, ∀ c ∈ p.containers, ∀ entry ∈ c.requests.entries, 0 ≤ entry.2.milli

instance (info : NodeInfo) : Decidable info.RequestsNonneg :=
  inferInstanceAs (Decidable (∀ p ∈ info.pods, ∀ c ∈ p.containers, ∀ entry ∈ c.requests.entries, 0 ≤ entry.2.milli))

theorem NodeInfo.RequestsNonneg.requests {info : NodeInfo} (nonneg : info.RequestsNonneg) (resource : String) :
    ∀ p ∈ info.pods, ∀ q ∈ p.requests resource, 0 ≤ q.milli := by
  intro p member q requested
  obtain ⟨c, inside, listed⟩ := List.mem_filterMap.mp requested
  obtain ⟨before, after, split_eq, -⟩ := List.lookup_eq_some_iff.mp listed
  have entry : (resource, q) ∈ c.requests.entries := by
    rw [split_eq]
    exact List.mem_append_right before List.mem_cons_self
  exact nonneg p member c inside (resource, q) entry

namespace Utilization

/-! ## Classes -/

def Reserves (settings : UtilizationSettings) (p : Pod) : Prop :=
  settings.skipDaemonsetPods = true ∧ p.isDaemonset = true ∨ settings.skipMirrorPods = true ∧ p.isMirror = true

section Classes

variable {settings : UtilizationSettings} {now : Instant} {p : Pod}

theorem accounting_of_reserves (taken : Reserves settings p) : accounting settings now p = .reserved := by
  unfold accounting
  rcases taken with ⟨skipped, daemonset⟩ | ⟨skipped, mirror⟩
  · rw [skipped, daemonset]
    rfl
  · rw [skipped, mirror]
    split <;> rfl

theorem accounting_of_not_reserves (free : ¬Reserves settings p) :
    accounting settings now p = if p.isLongTerminating now then .ignored else .counted := by
  unfold Reserves at free
  rw [← Bool.and_eq_true, ← Bool.and_eq_true, not_or] at free
  unfold accounting
  rw [if_neg free.1, if_neg free.2]

/-- Whether a pod is reserved is up to the settings alone. -/
theorem accounting_eq_reserved_iff : accounting settings now p = .reserved ↔ Reserves settings p := by
  constructor
  · intro reserved
    by_contra free
    rw [accounting_of_not_reserves free] at reserved
    split at reserved <;> cases reserved
  · exact accounting_of_reserves

/-- As time passes a pod keeps its class, or no longer counts. -/
theorem accounting_later (settings : UtilizationSettings) (p : Pod) {t t' : Instant} (later : t ≤ t') :
    accounting settings t' p = accounting settings t p ∨
      accounting settings t p = .counted ∧ accounting settings t' p = .ignored := by
  by_cases taken : Reserves settings p
  · left
    rw [accounting_of_reserves taken, accounting_of_reserves taken]
  · rw [accounting_of_not_reserves taken, accounting_of_not_reserves taken]
    by_cases expired : p.isLongTerminating t = true
    · left
      rw [if_pos expired, if_pos (Pod.isLongTerminating_mono later expired)]
    · rw [if_neg expired]
      split
      · exact .inr ⟨rfl, rfl⟩
      · exact .inl rfl

theorem counted_of_later {t t' : Instant} (later : t ≤ t') (counted' : accounting settings t' p = .counted) :
    accounting settings t p = .counted := by
  rcases accounting_later settings p later with same | ⟨counted, -⟩
  · rw [← same]
    exact counted'
  · exact counted

/-- Settings that take all pods for a part of the machine that others do, and that differ in nothing else. -/
structure SkipsMore (settings settings' : UtilizationSettings) : Prop where
  daemonset : settings.skipDaemonsetPods = true → settings'.skipDaemonsetPods = true
  mirror : settings.skipMirrorPods = true → settings'.skipMirrorPods = true
  gpuLabel : settings'.gpuLabel = settings.gpuLabel

theorem SkipsMore.reserves {settings' : UtilizationSettings} (more : SkipsMore settings settings')
    (taken : Reserves settings p) : Reserves settings' p :=
  taken.imp (And.imp_left more.daemonset) (And.imp_left more.mirror)

/-- As more is skipped a pod keeps its class, or becomes reserved. -/
theorem accounting_skipping (now : Instant) (p : Pod) {settings' : UtilizationSettings}
    (more : SkipsMore settings settings') :
    accounting settings' now p = accounting settings now p ∨
      (accounting settings now p = .counted ∨ accounting settings now p = .ignored) ∧
        accounting settings' now p = .reserved := by
  by_cases taken : Reserves settings p
  · left
    rw [accounting_of_reserves taken, accounting_of_reserves (more.reserves taken)]
  · by_cases taken' : Reserves settings' p
    · right
      rw [accounting_of_not_reserves taken]
      refine ⟨?_, accounting_of_reserves taken'⟩
      split
      · exact .inr rfl
      · exact .inl rfl
    · left
      rw [accounting_of_not_reserves taken, accounting_of_not_reserves taken']

theorem counted_of_skipping {settings' : UtilizationSettings} (more : SkipsMore settings settings')
    (counted' : accounting settings' now p = .counted) : accounting settings now p = .counted := by
  rcases accounting_skipping now p more with same | ⟨-, reserved'⟩
  · rw [← same]
    exact counted'
  · rw [reserved'] at counted'
    cases counted'

end Classes

/-! ## Totals under two classifications -/

section Totals

variable {settings settings' : UtilizationSettings} {now now' : Instant} {wanted : Accounting} {pods : List Pod}

theorem exactRequested_cons (settings : UtilizationSettings) (now : Instant) (resource : String) (wanted : Accounting)
    (p : Pod) (pods : List Pod) : exactRequested settings now resource wanted (p :: pods) =
      (if accounting settings now p = wanted then Quantity.exactSum (p.requests resource) else 0) +
        exactRequested settings now resource wanted pods := by
  unfold exactRequested
  by_cases kept : accounting settings now p = wanted
  · rw [List.filter_cons_of_pos (by simpa using kept), List.flatMap_cons, Quantity.exactSum_append, if_pos kept]
  · rw [List.filter_cons_of_neg (by simpa using kept), if_neg kept, Int.zero_add]

/-- A class that only loses pods requests no more, pod by pod. -/
theorem exactRequested_le {resource : String} (nonneg : ∀ p ∈ pods, ∀ q ∈ p.requests resource, 0 ≤ q.milli)
    (fewer : ∀ p ∈ pods, accounting settings' now' p = wanted → accounting settings now p = wanted) :
    exactRequested settings' now' resource wanted pods ≤ exactRequested settings now resource wanted pods := by
  induction pods with
  | nil => exact Int.le_refl 0
  | cons p pods ih =>
    have head_nonneg := Quantity.exactSum_nonneg (nonneg p List.mem_cons_self)
    have head := fewer p List.mem_cons_self
    have rest := ih (fun r member => nonneg r (List.mem_cons_of_mem p member))
      fun r member => fewer r (List.mem_cons_of_mem p member)
    rw [exactRequested_cons, exactRequested_cons]
    by_cases kept' : accounting settings' now' p = wanted
    · rw [if_pos kept', if_pos (head kept')]
      omega
    · rw [if_neg kept']
      split <;> omega

/-- Saturation keeps the order of the exact totals. -/
theorem requested_le {resource : String} (nonneg : ∀ p ∈ pods, ∀ q ∈ p.requests resource, 0 ≤ q.milli)
    (fewer : ∀ p ∈ pods, accounting settings' now' p = wanted → accounting settings now p = wanted) :
    requested settings' now' resource wanted pods ≤ requested settings now resource wanted pods := by
  have exact_le := exactRequested_le nonneg fewer
  rw [Quantity.le_def, requested_of_nonneg settings' now' resource wanted nonneg,
    requested_of_nonneg settings now resource wanted nonneg]
  omega

/-- A class that keeps its pods keeps its total, whatever the requests are. -/
theorem requested_congr (resource : String)
    (same : ∀ p ∈ pods, accounting settings' now' p = wanted ↔ accounting settings now p = wanted) :
    requested settings' now' resource wanted pods = requested settings now resource wanted pods := by
  unfold requested
  rw [List.filter_congr fun p member => decide_eq_decide.mpr (same p member)]

end Totals

/-- With the same amount reserved, a ratio fails alike or has the same divisor, whatever is counted. -/
theorem verdict_alike (info : NodeInfo) (resource : String) (reserved counted counted' : Quantity) :
    Alike (fun load load' => ∃ allocatable, info.node.allocatable.get? resource = some allocatable ∧
        0 < (allocatable - reserved).milli ∧
        load = quotient counted.milli (allocatable - reserved).milli ∧
        load' = quotient counted'.milli (allocatable - reserved).milli)
      (verdict info resource reserved counted) (verdict info resource reserved counted') := by
  unfold verdict
  cases listed : info.node.allocatable.get? resource with
  | none => exact .error _
  | some allocatable =>
    dsimp only
    split
    · exact .error _
    · split
      · exact .error _
      · next some_left => exact .ok ⟨allocatable, rfl, Int.not_le.mp some_left, rfl, rfl⟩

/-! ## Passing time -/

section Time

variable (settings : UtilizationSettings) (info : NodeInfo) (t t' : Instant)

/-- The clock reserves no pod and frees none. -/
theorem requested_reserved_of_clock (resource : String) : requested settings t' resource .reserved info.pods =
    requested settings t resource .reserved info.pods := by
  apply requested_congr
  intro p member
  rw [accounting_eq_reserved_iff, accounting_eq_reserved_iff]

/-- At any two times a ratio has the same fault, or the same divisor. -/
theorem ratio_alike_of_clock (resource : String) :
    Alike (fun load load' => ∃ allocatable, info.node.allocatable.get? resource = some allocatable ∧
        let available := (allocatable - requested settings t resource .reserved info.pods).milli
        0 < available ∧
        load = quotient (requested settings t resource .counted info.pods).milli available ∧
        load' = quotient (requested settings t' resource .counted info.pods).milli available)
      (ratio settings t info resource) (ratio settings t' info resource) := by
  rw [ratio_eq_verdict, ratio_eq_verdict, requested_reserved_of_clock settings info t t']
  exact verdict_alike info resource _ _ _

theorem dominant_ofLoads_ne_gpu (cpu memory : Float) : (ofLoads cpu memory).dominant ≠ .gpu := by
  unfold ofLoads
  split <;> exact DominantResource.noConfusion

/-- At any two times an assessment has the same fault, or is made in the same mode. -/
theorem result_alike_of_clock :
    Alike (fun u u' => u.dominant = .gpu ↔ u'.dominant = .gpu)
      (assess settings t info).result (assess settings t' info).result := by
  by_cases carries : info.node.hasGpu settings.gpuLabel = true
  · rw [result_of_gpu carries, result_of_gpu carries]
    exact .ok (iff_of_true rfl rfl)
  · rw [result_of_loads carries, result_of_loads carries]
    refine (ratio_alike_of_clock settings info t t' Resource.cpu).bind fun cpu cpu' _ => ?_
    refine (ratio_alike_of_clock settings info t t' Resource.memory).bind fun memory memory' _ => ?_
    exact .ok (iff_of_false (dominant_ofLoads_ne_gpu cpu memory) (dominant_ofLoads_ne_gpu cpu' memory'))

end Time

/-- Passing time only removes load. A pod keeps its class, or goes from counted to ignored. So what is reserved stays,
and what is counted does not grow, neither in exact numbers nor as far as it is kept; every ratio fails alike at both
times, or is a quotient of the two by one positive divisor; and the assessment fails alike, or is made in the same
mode. -/
theorem assess_later (settings : UtilizationSettings) {info : NodeInfo} {t t' : Instant} (later : t ≤ t')
    (nonneg : info.RequestsNonneg) :
    (∀ p, accounting settings t' p = accounting settings t p ∨
      accounting settings t p = .counted ∧ accounting settings t' p = .ignored) ∧
    (∀ resource,
      exactRequested settings t' resource .counted info.pods ≤ exactRequested settings t resource .counted info.pods ∧
      requested settings t' resource .counted info.pods ≤ requested settings t resource .counted info.pods ∧
      requested settings t' resource .reserved info.pods = requested settings t resource .reserved info.pods ∧
      Alike (fun load load' => ∃ allocatable, info.node.allocatable.get? resource = some allocatable ∧
          let available := (allocatable - requested settings t resource .reserved info.pods).milli
          0 < available ∧
          load = quotient (requested settings t resource .counted info.pods).milli available ∧
          load' = quotient (requested settings t' resource .counted info.pods).milli available)
        (ratio settings t info resource) (ratio settings t' info resource)) ∧
    Alike (fun u u' => u.dominant = .gpu ↔ u'.dominant = .gpu)
      (assess settings t info).result (assess settings t' info).result := by
  refine ⟨fun p => accounting_later settings p later, fun resource => ⟨?_, ?_, ?_, ?_⟩,
    result_alike_of_clock settings info t t'⟩
  · exact exactRequested_le (nonneg.requests resource) fun p _ => counted_of_later later
  · exact requested_le (nonneg.requests resource) fun p _ => counted_of_later later
  · exact requested_reserved_of_clock settings info t t' resource
  · exact ratio_alike_of_clock settings info t t' resource

/-- A pod that has been asked to stop at the epoch, at once. -/
def stoppingPod : Pod where
  name := "web"
  containers := [{ name := "main", requests := Table.ofEntries [(Resource.cpu, .saturate 1000)] }]
  deletionTime := some 0
  gracePeriod := some 0

/-- A daemon set's pod that has been asked to stop with it. -/
def stoppingAgent : Pod where
  name := "agent"
  owners := [{ kind := "DaemonSet", name := "agent", controller := true }]
  containers := [{ name := "main", requests := Table.ofEntries [(Resource.cpu, .saturate 500)] }]
  deletionTime := some 0

def draining : NodeInfo where
  node := {
    name := "draining"
    allocatable := Table.ofEntries [(Resource.cpu, .saturate 2000), (Resource.memory, .ofUnits 1)] }
  pods := [stoppingPod, stoppingAgent]

/-- A time when both pods have been stopping for too long. -/
def overdue : Instant :=
  (Instant.epoch.addSeconds? 331).getD Instant.epoch

/-- The load leaves a draining node, and nothing else changes. -/
theorem assess_draining_overdue :
    Instant.epoch ≤ overdue ∧ draining.RequestsNonneg ∧
      accounting {} Instant.epoch stoppingPod = .counted ∧ accounting {} overdue stoppingPod = .ignored ∧
      requested {} overdue Resource.cpu .reserved draining.pods =
        requested {} Instant.epoch Resource.cpu .reserved draining.pods ∧
      Alike (fun u u' => u.dominant = .gpu ↔ u'.dominant = .gpu)
        (assess {} Instant.epoch draining).result (assess {} overdue draining).result := by
  have later : Instant.epoch ≤ overdue := by decide
  have nonneg : draining.RequestsNonneg := by decide
  obtain ⟨classes, ratios, results⟩ := assess_later {} later nonneg
  have counted : accounting {} Instant.epoch stoppingPod = .counted := by decide
  have ignored : accounting {} overdue stoppingPod = .ignored := by decide
  exact ⟨later, nonneg, counted, ignored, (ratios Resource.cpu).2.2.1, results⟩

/-! ## Skipping more -/

section Skipping

variable {settings settings' : UtilizationSettings} {info : NodeInfo}

theorem requested_reserved_le (now : Instant) (resource : String) (more : SkipsMore settings settings')
    (nonneg : info.RequestsNonneg) :
    requested settings now resource .reserved info.pods ≤ requested settings' now resource .reserved info.pods := by
  apply requested_le (nonneg.requests resource)
  intro p member reserved
  rw [accounting_eq_reserved_iff] at reserved ⊢
  exact more.reserves reserved

theorem ratio_ok_of_skipping (now : Instant) (resource : String) (more : SkipsMore settings settings')
    (nonneg : info.RequestsNonneg) {load : Float} (succeeded : ratio settings' now info resource = .ok load) :
    ∃ load, ratio settings now info resource = .ok load := by
  rw [ratio_eq_verdict] at succeeded ⊢
  exact verdict_ok_of_le (requested_reserved_le now resource more nonneg) succeeded

theorem result_ok_of_skipping (now : Instant) (more : SkipsMore settings settings') (nonneg : info.RequestsNonneg)
    {u : Utilization} (succeeded : (assess settings' now info).result = .ok u) :
    ∃ u, (assess settings now info).result = .ok u := by
  by_cases carries : info.node.hasGpu settings.gpuLabel = true
  · exact ⟨_, result_of_gpu carries⟩
  · have carries' : ¬info.node.hasGpu settings'.gpuLabel = true := by
      rw [more.gpuLabel]
      exact carries
    rw [result_of_loads carries', loadsResult_eq_ok_iff] at succeeded
    obtain ⟨cpu', memory', cpu_ok, memory_ok, -⟩ := succeeded
    obtain ⟨cpu, cpu_eq⟩ := ratio_ok_of_skipping now Resource.cpu more nonneg cpu_ok
    obtain ⟨memory, memory_eq⟩ := ratio_ok_of_skipping now Resource.memory more nonneg memory_ok
    rw [result_of_loads carries]
    exact ⟨_, loadsResult_eq_ok_iff.mpr ⟨cpu, memory, cpu_eq, memory_eq, rfl⟩⟩

end Skipping

/-- Skipping more pods only reserves. A reserved pod stays so, and one whose class changes becomes so. So what is counted
does not grow, and what is left for it does not either; and a ratio or an assessment that succeeds has succeeded before
more was skipped. -/
theorem assess_skipping {settings settings' : UtilizationSettings} (now : Instant) {info : NodeInfo}
    (more : SkipsMore settings settings') (nonneg : info.RequestsNonneg) :
    (∀ p, accounting settings now p = .reserved → accounting settings' now p = .reserved) ∧
    (∀ p, accounting settings' now p ≠ accounting settings now p →
      (accounting settings now p = .counted ∨ accounting settings now p = .ignored) ∧
        accounting settings' now p = .reserved) ∧
    (∀ resource,
      exactRequested settings' now resource .counted info.pods ≤
        exactRequested settings now resource .counted info.pods ∧
      requested settings' now resource .counted info.pods ≤ requested settings now resource .counted info.pods ∧
      (∀ allocatable : Quantity, allocatable - requested settings' now resource .reserved info.pods ≤
        allocatable - requested settings now resource .reserved info.pods) ∧
      ((∃ load, ratio settings' now info resource = .ok load) → ∃ load, ratio settings now info resource = .ok load)) ∧
    ((∃ u, (assess settings' now info).result = .ok u) → ∃ u, (assess settings now info).result = .ok u) := by
  refine ⟨fun p reserved => ?_, fun p changed => ?_, fun resource => ⟨?_, ?_, fun allocatable => ?_, ?_⟩, ?_⟩
  · rw [accounting_eq_reserved_iff] at reserved ⊢
    exact more.reserves reserved
  · exact (accounting_skipping now p more).resolve_left changed
  · exact exactRequested_le (nonneg.requests resource) fun p _ => counted_of_skipping more
  · exact requested_le (nonneg.requests resource) fun p _ => counted_of_skipping more
  · exact available_anti allocatable (requested_reserved_le now resource more nonneg)
  · rintro ⟨load, succeeded⟩
    exact ratio_ok_of_skipping now resource more nonneg succeeded
  · rintro ⟨u, succeeded⟩
    exact result_ok_of_skipping now more nonneg succeeded

/-- With daemon sets skipped, an overdue pod of one is reserved instead of ignored; the node still has a utilization
without. -/
theorem assess_draining_counting_daemonsets :
    SkipsMore { skipDaemonsetPods := false } {} ∧ draining.RequestsNonneg ∧
      accounting { skipDaemonsetPods := false } overdue stoppingAgent = .ignored ∧
      accounting {} overdue stoppingAgent = .reserved ∧
      (assess {} overdue draining).result = .ok (ofLoads 0.0 0.0) ∧
      ∃ u, (assess { skipDaemonsetPods := false } overdue draining).result = .ok u := by
  have more : SkipsMore { skipDaemonsetPods := false } {} := ⟨fun _ => rfl, id, rfl⟩
  have nonneg : draining.RequestsNonneg := by decide
  have ignored : accounting { skipDaemonsetPods := false } overdue stoppingAgent = .ignored := by decide
  have reserved : accounting {} overdue stoppingAgent = .reserved := by decide
  have succeeded : (assess {} overdue draining).result = .ok (ofLoads 0.0 0.0) := by decide +kernel
  exact ⟨more, nonneg, ignored, reserved, succeeded, (assess_skipping overdue more nonneg).2.2.2 ⟨_, succeeded⟩⟩

end Utilization

end ClusterCost
