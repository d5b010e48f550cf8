import ClusterCost.Proofs.Outcome
import ClusterCost.Proofs.Price.Itemised
import ClusterCost.Utilization.Assessment
import Mathlib.Tactic.ByContra

/-!
# The two modes of an assessment

Every node is assessed in exactly one of two modes. `Node.CarriesGpu` says which, in terms of labels and amounts; the
price model charges for graphics processors in no other case (`carriesGpu_of_charged`).

A node that carries graphics processors always gets a utilization, their ratio, or nothing and one notice where there
is no such ratio. Any other node gets one only if both its processors and its memory have a ratio, and gives no notice.
`assess_by_mode` states both modes for every node, pod list, setting and instant.
-/
namespace ClusterCost

/-- A node carries graphics processors: the label of their type, or an amount of them that is not nothing, among what
pods may use or among what the machine has. -/
def Node.CarriesGpu (gpuLabel : String) (n : Node) : Prop :=
  n.labels.get? gpuLabel ≠ none ∨
    (∃ q, n.allocatable.get? Resource.gpu = some q ∧ q.milli ≠ 0) ∨
    ∃ q, n.capacity.get? Resource.gpu = some q ∧ q.milli ≠ 0

theorem Resources.hasGpu_iff (r : Resources) : r.hasGpu = true ↔ ∃ q, r.get? Resource.gpu = some q ∧ q.milli ≠ 0 := by
  unfold Resources.hasGpu
  cases r.get? Resource.gpu with
  | none => simp
  | some q => simp [Quantity.isZero]

theorem Node.hasGpu_iff (gpuLabel : String) (n : Node) : n.hasGpu gpuLabel = true ↔ n.CarriesGpu gpuLabel := by
  unfold Node.hasGpu Node.CarriesGpu
  rw [Bool.or_eq_true, Bool.or_eq_true, Resources.hasGpu_iff, Resources.hasGpu_iff, or_assoc, Table.contains,
    Option.isSome_iff_ne_none]

namespace Price.Model

/-- A node whose estimate has a price of graphics processors, or a warning about one, carries some, whatever label the
price model reads and whatever label utilization reads. -/
theorem carriesGpu_of_charged (m : Model) (n : Node) (w : Billing.Window) (gpuLabel : String)
    (charged : (m.estimate n w).value.gpu ≠ 0.0 ∨
      ∃ node gpuType preemptible, .unknownGpu node gpuType preemptible ∈ (m.estimate n w).warnings) :
    n.CarriesGpu gpuLabel := by
  by_contra bare
  have free := gpuPrice_of_absent m n w fun present => bare (.inr (.inr present))
  rcases charged with priced | ⟨node, gpuType, preemptible, warned⟩
  · exact priced (by rw [estimate, free])
  · simp only [estimate, free, List.append_nil] at warned
    unfold machinePrice at warned
    split at warned
    · cases warned
    · split at warned <;> simp at warned

end Price.Model

namespace Utilization

variable {settings : UtilizationSettings} {now : Instant} {info : NodeInfo}

theorem assess_of_carriesGpu (carries : info.node.CarriesGpu settings.gpuLabel) :
    assess settings now info = assessGpu settings now info :=
  if_pos ((Node.hasGpu_iff _ _).mpr carries)

theorem assess_of_not_carriesGpu (bare : ¬info.node.CarriesGpu settings.gpuLabel) :
    assess settings now info = assessLoads settings now info :=
  if_neg (mt (Node.hasGpu_iff _ _).mp bare)

theorem assessGpu_of_ok {load : Float} (ready : ratio settings now info Resource.gpu = .ok load) :
    assessGpu settings now info = { result := .ok (ofGpu load) } := by
  unfold assessGpu
  rw [ready]

/-- Graphics processors that are not ready count as idle, whatever the fault is. -/
theorem assessGpu_of_error {fault : Fault} (unready : ratio settings now info Resource.gpu = .error fault) :
    assessGpu settings now info =
      { result := .ok (ofGpu 0.0), notices := [.unreadyGpu info.node.name fault] } := by
  unfold assessGpu
  rw [unready]

/-- The result for a node without graphics processors, by its two ratios. -/
def loadsResult (cpu memory : Except Fault Float) : Except Fault Utilization := do
  let cpu ← cpu
  let memory ← memory
  .ok (ofLoads cpu memory)

/-- The first fault decides: that of the processors if they have one, else that of the memory. -/
theorem loadsResult_eq_error_iff {cpu memory : Except Fault Float} {fault : Fault} :
    loadsResult cpu memory = .error fault ↔
      cpu = .error fault ∨ (∃ load, cpu = .ok load) ∧ memory = .error fault := by
  simp [loadsResult, bind_eq_error]

theorem loadsResult_eq_ok_iff {cpu memory : Except Fault Float} {u : Utilization} :
    loadsResult cpu memory = .ok u ↔
      ∃ cpuLoad memoryLoad, cpu = .ok cpuLoad ∧ memory = .ok memoryLoad ∧ u = ofLoads cpuLoad memoryLoad := by
  simp only [loadsResult, bind_eq_ok, Except.ok.injEq]
  constructor
  · rintro ⟨cpuLoad, cpu_eq, memoryLoad, memory_eq, rfl⟩
    exact ⟨cpuLoad, memoryLoad, cpu_eq, memory_eq, rfl⟩
  · rintro ⟨cpuLoad, memoryLoad, cpu_eq, memory_eq, rfl⟩
    exact ⟨cpuLoad, cpu_eq, memoryLoad, memory_eq, rfl⟩

theorem assessLoads_result : (assessLoads settings now info).result =
    loadsResult (ratio settings now info Resource.cpu) (ratio settings now info Resource.memory) := rfl

/-- The load of graphics processors; it is nothing where they are not ready. -/
def gpuLoad : Except Fault Float → Float
  | .ok load => load
  | .error _ => 0.0

theorem result_of_gpu (carries : info.node.hasGpu settings.gpuLabel = true) :
    (assess settings now info).result = .ok (ofGpu (gpuLoad (ratio settings now info Resource.gpu))) := by
  unfold assess assessGpu
  rw [if_pos carries]
  cases ratio settings now info Resource.gpu with
  | ok load => rfl
  | error fault => rfl

theorem result_of_loads (bare : ¬info.node.hasGpu settings.gpuLabel = true) :
    (assess settings now info).result =
      loadsResult (ratio settings now info Resource.cpu) (ratio settings now info Resource.memory) := by
  unfold assess
  rw [if_neg bare, assessLoads_result]

/-- Every node is assessed in one mode. One that carries graphics processors, such as any that is charged for them, has
a utilization, of these alone; it is zero, and one debug event says so, exactly where their ratio has a fault. Any other
node reports no event; it has a utilization exactly if its processors and its memory have a ratio, that of the greater
one, or of the memory if neither is greater, and otherwise the fault of the first of the two that has one. -/
theorem assess_by_mode (settings : UtilizationSettings) (now : Instant) (info : NodeInfo) :
    let gpuMode := info.node.CarriesGpu settings.gpuLabel
    let outcome := assess settings now info
    let ratioOf := ratio settings now info
    (∀ (m : Price.Model) (w : Billing.Window),
      ((m.estimate info.node w).value.gpu ≠ 0.0 ∨
        ∃ node gpuType preemptible, .unknownGpu node gpuType preemptible ∈ (m.estimate info.node w).warnings) →
      gpuMode) ∧
    (gpuMode → ∃ load,
      outcome.result = .ok { cpu := 0.0, memory := 0.0, gpu := load, dominant := .gpu, value := load } ∧
      ((ratioOf Resource.gpu = .ok load ∧ outcome.notices = []) ∨
        ∃ fault, ratioOf Resource.gpu = .error fault ∧ load = 0.0 ∧
          outcome.notices.map Notice.event =
            [⟨.debug, "node has unready GPU", [("node", .text info.node.name), ("error", .text fault.message)]⟩])) ∧
    (¬gpuMode →
      outcome.notices = [] ∧
      (∀ fault, outcome.result = .error fault ↔
        ratioOf Resource.cpu = .error fault ∨
          (∃ load, ratioOf Resource.cpu = .ok load) ∧ ratioOf Resource.memory = .error fault) ∧
      ∀ u, outcome.result = .ok u ↔ ∃ cpu memory,
        ratioOf Resource.cpu = .ok cpu ∧ ratioOf Resource.memory = .ok memory ∧
          u = if cpu > memory then { cpu, memory, gpu := 0.0, dominant := .cpu, value := cpu }
            else { cpu, memory, gpu := 0.0, dominant := .memory, value := memory }) := by
  intro gpuMode outcome ratioOf
  refine ⟨fun m w charged => m.carriesGpu_of_charged _ w _ charged, fun carries => ?_, fun bare => ?_⟩
  · have reduced : outcome = assessGpu settings now info := assess_of_carriesGpu carries
    cases found : ratioOf Resource.gpu with
    | ok load =>
      rw [reduced, assessGpu_of_ok found]
      exact ⟨load, rfl, .inl ⟨rfl, rfl⟩⟩
    | error fault =>
      rw [reduced, assessGpu_of_error found]
      exact ⟨0.0, rfl, .inr ⟨fault, rfl, rfl, rfl⟩⟩
  · have reduced : outcome = assessLoads settings now info := assess_of_not_carriesGpu bare
    rw [reduced, assessLoads_result]
    exact ⟨rfl, fun fault => loadsResult_eq_error_iff, fun u => loadsResult_eq_ok_iff⟩

end Utilization

end ClusterCost
