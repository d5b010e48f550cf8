import ClusterCost.Proofs.Utilization.Arrangement
import ClusterCost.Proofs.Utilization.Load
import ClusterCost.Proofs.Utilization.Mode
import ClusterCost.Proofs.Utilization.Quotient

/-!
# Assessments and the order of pods

The result of an assessment rests on saturating totals, and these depend on the order of pods and containers as soon as
a sum passes an end of the range on the way. `OrderFree` is the condition under which no order of a node matters: the
result is the same at all ends of all totals. `result_of_rearranges_iff` says that this is exact.

The ends are attained, so the condition is needed; between the ends the outcomes lie between those at the ends, so it is
enough (`verdict_eq_of_corners`, `gpuLoad_eq_of_corners`).
-/
namespace ClusterCost.Utilization

open Quantity (Extreme)

variable {settings : UtilizationSettings} {now : Instant}

/-! ## Verdicts between the ends of their totals -/

section Between

variable {info : NodeInfo} {resource : String} {R₁ R R₂ C₁ C C₂ : Quantity}

theorem abs_milli_le (q : Quantity) : |q.milli| ≤ 2 ^ 63 := by
  have low := q.minMilli_le
  have high := q.le_maxMilli
  simp only [Quantity.minMilli, Quantity.maxMilli] at low high
  rw [abs_le]
  omega

/-- A quotient by what is left is the same between the ends as at the ends. -/
theorem quotient_available_eq {allocatable : Quantity} {load : Float} (R_low : R₁ ≤ R) (R_high : R ≤ R₂)
    (C_low : C₁ ≤ C) (C_high : C ≤ C₂) (some_left : 0 < (allocatable - R₂).milli)
    (corner₁₁ : quotient C₁.milli (allocatable - R₁).milli = load)
    (corner₁₂ : quotient C₂.milli (allocatable - R₁).milli = load)
    (corner₂₁ : quotient C₁.milli (allocatable - R₂).milli = load)
    (corner₂₂ : quotient C₂.milli (allocatable - R₂).milli = load) :
    quotient C.milli (allocatable - R).milli = load := by
  have word := abs_milli_le (allocatable - R₁)
  rw [abs_le] at word
  exact quotient_eq_of_corners (abs_milli_le C₁) (abs_milli_le C₂) C_low C_high some_left
    (available_anti allocatable R_high) (available_anti allocatable R_low) word.2 corner₂₁ corner₁₁ corner₂₂ corner₁₂

/-- A verdict that is the same at all ends is the same between them. -/
theorem verdict_eq_of_corners {outcome : Except Fault Float} (R_low : R₁ ≤ R) (R_high : R ≤ R₂) (C_low : C₁ ≤ C)
    (C_high : C ≤ C₂) (corner₁₁ : verdict info resource R₁ C₁ = outcome)
    (corner₁₂ : verdict info resource R₁ C₂ = outcome) (corner₂₁ : verdict info resource R₂ C₁ = outcome)
    (corner₂₂ : verdict info resource R₂ C₂ = outcome) : verdict info resource R C = outcome := by
  cases listed : info.node.allocatable.get? resource with
  | none =>
    rw [← corner₁₁]
    simp only [verdict, listed]
  | some allocatable =>
    by_cases zero : allocatable.milli = 0
    · rw [← corner₁₁]
      simp only [verdict, listed, zero, if_true]
    · have less := available_anti allocatable R_low
      have least := available_anti allocatable R_high
      by_cases none_left : (allocatable - R₁).milli ≤ 0
      · -- The faults carry what is reserved, so the ends are one.
        rw [verdict_of_exhausted listed zero none_left] at corner₁₁
        rw [verdict_of_exhausted listed zero (by omega)] at corner₂₁
        have same : R₁.milli = R₂.milli := by
          rw [← corner₁₁, Except.error.injEq, Fault.exhausted.injEq] at corner₂₁
          exact corner₂₁.2.2.2.symm
        have between : R.milli = R₁.milli := by
          rw [Quantity.le_def] at R_low R_high
          omega
        rw [verdict_of_exhausted listed zero (by omega), between]
        exact corner₁₁
      · rw [verdict_of_available listed zero (by omega)] at corner₁₁ corner₁₂
        rw [← corner₁₁] at corner₂₁ corner₂₂ corner₁₂ ⊢
        have some_left : 0 < (allocatable - R₂).milli := by
          by_contra exhausted
          rw [verdict_of_exhausted listed zero (by omega)] at corner₂₁
          cases corner₂₁
        rw [verdict_of_available listed zero some_left, Except.ok.injEq] at corner₂₁ corner₂₂
        rw [Except.ok.injEq] at corner₁₂
        rw [verdict_of_available listed zero (by omega),
          quotient_available_eq R_low R_high C_low C_high some_left rfl corner₁₂ corner₂₁ corner₂₂]

/-- A load of graphics processors that is the same at all ends is the same between them, also where some of the ends
have a fault. -/
theorem gpuLoad_eq_of_corners {load : Float} (R_low : R₁ ≤ R) (R_high : R ≤ R₂) (C_low : C₁ ≤ C) (C_high : C ≤ C₂)
    (corner₁₁ : gpuLoad (verdict info resource R₁ C₁) = load)
    (corner₁₂ : gpuLoad (verdict info resource R₁ C₂) = load)
    (corner₂₁ : gpuLoad (verdict info resource R₂ C₁) = load)
    (corner₂₂ : gpuLoad (verdict info resource R₂ C₂) = load) : gpuLoad (verdict info resource R C) = load := by
  cases listed : info.node.allocatable.get? resource with
  | none =>
    rw [← corner₁₁]
    simp only [verdict, listed]
  | some allocatable =>
    by_cases zero : allocatable.milli = 0
    · rw [← corner₁₁]
      simp only [verdict, listed, zero, if_true, gpuLoad]
    · have less := available_anti allocatable R_low
      have least := available_anti allocatable R_high
      by_cases some_left : 0 < (allocatable - R₂).milli
      · rw [verdict_of_available listed zero (by omega)] at corner₁₁ corner₁₂
        rw [verdict_of_available listed zero some_left] at corner₂₁ corner₂₂
        rw [verdict_of_available listed zero (by omega)]
        exact quotient_available_eq R_low R_high C_low C_high some_left corner₁₁ corner₁₂ corner₂₁ corner₂₂
      · have idle : load = 0.0 := by
          rw [verdict_of_exhausted listed zero (by omega)] at corner₂₁
          exact corner₂₁.symm
        by_cases none_left : (allocatable - R).milli ≤ 0
        · rw [verdict_of_exhausted listed zero none_left, idle]
          rfl
        · -- Something is left at one end and nothing at the other, so nothing is requested at either.
          have word := abs_milli_le (allocatable - R₁)
          have word' := abs_milli_le (allocatable - R)
          rw [abs_le] at word word'
          rw [verdict_of_available listed zero (by omega), gpuLoad, idle] at corner₁₁ corner₁₂
          have none_low := (quotient_eq_zero_iff (abs_milli_le C₁) (by omega) word.2).mp corner₁₁
          have none_high := (quotient_eq_zero_iff (abs_milli_le C₂) (by omega) word.2).mp corner₁₂
          have none_requested : C.milli = 0 := by
            rw [Quantity.le_def] at C_low C_high
            omega
          rw [verdict_of_available listed zero (by omega), gpuLoad, idle]
          exact (quotient_eq_zero_iff (abs_milli_le C) (by omega) word'.2).mpr none_requested

end Between

/-! ## Ratios at the ends -/

/-- The ratio of a resource at chosen ends of its two totals. -/
def extremeRatio (settings : UtilizationSettings) (now : Instant) (info : NodeInfo) (resource : String)
    (reserved counted : Extreme) : Except Fault Float :=
  verdict info resource (extremeRequested settings now resource .reserved reserved info.pods)
    (extremeRequested settings now resource .counted counted info.pods)

theorem ratio_arranged (settings : UtilizationSettings) (now : Instant) (info : NodeInfo) (resource : String)
    (reserved counted : Extreme) :
    ratio settings now (arranged settings now resource reserved counted info) resource =
      extremeRatio settings now info resource reserved counted := by
  obtain ⟨reserved_total, counted_total⟩ := requested_arranged settings now resource reserved counted info
  rw [ratio_eq_verdict, reserved_total, counted_total]
  rfl

def Fault.resource : Fault → String
  | .missing resource _ => resource
  | .zero resource _ => resource
  | .exhausted resource _ _ _ => resource

theorem resource_of_verdict_error {info : NodeInfo} {resource : String} {reserved counted : Quantity} {fault : Fault}
    (failed : verdict info resource reserved counted = .error fault) : fault.resource = resource := by
  unfold verdict at failed
  split at failed
  · cases failed
    rfl
  · split at failed
    · cases failed
      rfl
    · split at failed
      · cases failed
        rfl
      · cases failed

/-- The faults of processors and memory are never the same. -/
theorem cpu_fault_ne_memory_fault {info info' : NodeInfo} {R C R' C' : Quantity} {fault : Fault}
    (cpu : verdict info Resource.cpu R C = .error fault) : verdict info' Resource.memory R' C' ≠ .error fault := by
  intro memory
  have named := resource_of_verdict_error cpu
  rw [resource_of_verdict_error memory] at named
  exact absurd named (by decide)

theorem ofLoads_inj {cpu memory cpu' memory' : Float} (same : ofLoads cpu memory = ofLoads cpu' memory') :
    cpu = cpu' ∧ memory = memory' := by
  have loads (cpu memory : Float) : (ofLoads cpu memory).cpu = cpu ∧ (ofLoads cpu memory).memory = memory := by
    unfold ofLoads
    split
    · exact ⟨rfl, rfl⟩
    · exact ⟨rfl, rfl⟩
  obtain ⟨cpu_eq, memory_eq⟩ := loads cpu memory
  rw [same, (loads cpu' memory').1] at cpu_eq
  rw [same, (loads cpu' memory').2] at memory_eq
  exact ⟨cpu_eq.symm, memory_eq.symm⟩

/-! ## All arrangements of a node -/

section Rearranged

variable {info info' : NodeInfo}

theorem NodeInfo.rearranges_refl (info : NodeInfo) : info.Rearranges info :=
  ⟨rfl, info.pods, List.forall₂_same.mpr fun _ _ => ⟨.refl _, rfl⟩, .refl _⟩

/-- The ratio of an arrangement is a verdict of the same node between the ends of its totals. -/
theorem ratio_of_rearranges (rearranged : info.Rearranges info') (resource : String) :
    ∃ R C, ratio settings now info' resource = verdict info resource R C ∧
      (extremeRequested settings now resource .reserved .least info.pods ≤ R ∧
        R ≤ extremeRequested settings now resource .reserved .greatest info.pods) ∧
      extremeRequested settings now resource .counted .least info.pods ≤ C ∧
        C ≤ extremeRequested settings now resource .counted .greatest info.pods := by
  refine ⟨_, _, ?_, ⟨extremeRequested_bounds .least resource .reserved rearranged,
    extremeRequested_bounds .greatest resource .reserved rearranged⟩,
    extremeRequested_bounds .least resource .counted rearranged,
    extremeRequested_bounds .greatest resource .counted rearranged⟩
  rw [ratio_eq_verdict]
  unfold verdict
  rw [rearranged.1]

theorem ratio_eq_of_ends {resource : String} {outcome : Except Fault Float} (rearranged : info.Rearranges info')
    (ends : ∀ r c, extremeRatio settings now info resource r c = outcome) :
    ratio settings now info' resource = outcome := by
  obtain ⟨R, C, ratio_eq, ⟨R_low, R_high⟩, C_low, C_high⟩ := ratio_of_rearranges rearranged resource
  rw [ratio_eq]
  exact verdict_eq_of_corners R_low R_high C_low C_high (ends _ _) (ends _ _) (ends _ _) (ends _ _)

theorem ratio_ok_of_ends {resource : String} (rearranged : info.Rearranges info')
    (ends : ∀ r c, ∃ load, extremeRatio settings now info resource r c = .ok load) :
    ∃ load, ratio settings now info' resource = .ok load := by
  obtain ⟨R, C, ratio_eq, ⟨-, R_high⟩, -⟩ := ratio_of_rearranges rearranged resource
  obtain ⟨load, corner⟩ := ends .greatest .least
  rw [ratio_eq]
  exact verdict_ok_of_le R_high corner

theorem gpuLoad_ratio_eq_of_ends {load : Float} (rearranged : info.Rearranges info')
    (ends : ∀ r c, gpuLoad (extremeRatio settings now info Resource.gpu r c) = load) :
    gpuLoad (ratio settings now info' Resource.gpu) = load := by
  obtain ⟨R, C, ratio_eq, ⟨R_low, R_high⟩, C_low, C_high⟩ := ratio_of_rearranges rearranged Resource.gpu
  rw [ratio_eq]
  exact gpuLoad_eq_of_corners R_low R_high C_low C_high (ends _ _) (ends _ _) (ends _ _) (ends _ _)

/-- Where all ends of processors and of memory give one result, every arrangement gives it. -/
theorem loadsResult_eq_of_ends {result : Except Fault Utilization} (rearranged : info.Rearranges info')
    (ends : ∀ r c r' c', loadsResult (extremeRatio settings now info Resource.cpu r c)
      (extremeRatio settings now info Resource.memory r' c') = result) :
    loadsResult (ratio settings now info' Resource.cpu) (ratio settings now info' Resource.memory) = result := by
  cases result with
  | ok u =>
    have loads (r c r' c' : Extreme) := loadsResult_eq_ok_iff.mp (ends r c r' c')
    obtain ⟨cpuLoad, memoryLoad, -, -, rfl⟩ := loads .least .least .least .least
    refine loadsResult_eq_ok_iff.mpr ⟨cpuLoad, memoryLoad, ?_, ?_, rfl⟩
    · apply ratio_eq_of_ends rearranged
      intro r c
      obtain ⟨load, _, cpu_eq, _, same⟩ := loads r c .least .least
      rw [cpu_eq, (ofLoads_inj same).1]
    · apply ratio_eq_of_ends rearranged
      intro r' c'
      obtain ⟨_, load, _, memory_eq, same⟩ := loads .least .least r' c'
      rw [memory_eq, (ofLoads_inj same).2]
  | error fault =>
    have faults (r c r' c' : Extreme) := loadsResult_eq_error_iff.mp (ends r c r' c')
    rw [loadsResult_eq_error_iff]
    by_cases cpu_fault : ∃ r c, extremeRatio settings now info Resource.cpu r c = .error fault
    · left
      obtain ⟨r₀, c₀, failed⟩ := cpu_fault
      apply ratio_eq_of_ends rearranged
      intro r c
      rcases faults r c .least .least with cpu | ⟨-, memory⟩
      · exact cpu
      · exact absurd memory (cpu_fault_ne_memory_fault failed)
    · right
      have memory_faults (r c r' c' : Extreme) := (faults r c r' c').resolve_left fun failed => cpu_fault ⟨r, c, failed⟩
      exact ⟨ratio_ok_of_ends rearranged fun r c => (memory_faults r c .least .least).1,
        ratio_eq_of_ends rearranged fun r' c' => (memory_faults .least .least r' c').2⟩

/-- Where every arrangement gives one result, all ends of processors and of memory give it, although no arrangement may
be at an end of both. -/
theorem loadsResult_ends_eq {result : Except Fault Utilization}
    (every : ∀ info', info.Rearranges info' →
      loadsResult (ratio settings now info' Resource.cpu) (ratio settings now info' Resource.memory) = result)
    (r c r' c' : Extreme) :
    loadsResult (extremeRatio settings now info Resource.cpu r c)
      (extremeRatio settings now info Resource.memory r' c') = result := by
  have at_cpu (r c : Extreme) := every _ (rearranges_arranged settings now Resource.cpu r c info)
  have at_memory (r c : Extreme) := every _ (rearranges_arranged settings now Resource.memory r c info)
  simp only [ratio_arranged] at at_cpu at_memory
  cases result with
  | ok u =>
    obtain ⟨cpuLoad, memoryLoad, cpu_eq, -, rfl⟩ := loadsResult_eq_ok_iff.mp (at_cpu r c)
    obtain ⟨cpuLoad', memoryLoad', -, memory_eq, same⟩ := loadsResult_eq_ok_iff.mp (at_memory r' c')
    rw [← (ofLoads_inj same).2] at memory_eq
    exact loadsResult_eq_ok_iff.mpr ⟨cpuLoad, memoryLoad, cpu_eq, memory_eq, rfl⟩
  | error fault =>
    rw [loadsResult_eq_error_iff]
    refine (loadsResult_eq_error_iff.mp (at_cpu r c)).imp_right fun ⟨cpu_ok, memory⟩ => ⟨cpu_ok, ?_⟩
    rw [ratio_eq_verdict] at memory
    rcases loadsResult_eq_error_iff.mp (at_memory r' c') with cpu | ⟨-, memory_end⟩
    · rw [ratio_eq_verdict] at cpu
      exact absurd memory (cpu_fault_ne_memory_fault cpu)
    · exact memory_end

end Rearranged

/-! ## When the order matters -/

/-- No order of the pods matters: the result is the same at all ends of all totals. -/
def OrderFree (settings : UtilizationSettings) (now : Instant) (info : NodeInfo) : Prop :=
  let atEnds := extremeRatio settings now info
  if info.node.hasGpu settings.gpuLabel then
    ∃ load, ∀ r c, gpuLoad (atEnds Resource.gpu r c) = load
  else
    ∃ result, ∀ r c r' c', loadsResult (atEnds Resource.cpu r c) (atEnds Resource.memory r' c') = result

/-- No order matters where no request is negative, whatever the sums are. -/
theorem orderFree_of_nonneg {info : NodeInfo}
    (nonneg : ∀ p ∈ info.pods, ∀ resource, ∀ q ∈ p.requests resource, 0 ≤ q.milli) : OrderFree settings now info := by
  have ends_eq (resource : String) (r c : Extreme) : extremeRatio settings now info resource r c =
      extremeRatio settings now info resource .least .least := by
    have nonneg_resource : ∀ p ∈ info.pods, ∀ q ∈ p.requests resource, 0 ≤ q.milli := fun p member =>
      nonneg p member resource
    unfold extremeRatio
    rw [extremeRequested_of_nonneg r .least resource .reserved nonneg_resource,
      extremeRequested_of_nonneg c .least resource .counted nonneg_resource]
  unfold OrderFree
  dsimp only
  split
  · exact ⟨_, fun r c => by rw [ends_eq]⟩
  · exact ⟨_, fun r c r' c' => by rw [ends_eq, ends_eq Resource.memory]⟩

/-- The result is the same for every order of the pods and of the containers in them exactly if it is the same at all
ends of all totals. -/
theorem result_of_rearranges_iff (settings : UtilizationSettings) (now : Instant) (info : NodeInfo) :
    (∀ info', info.Rearranges info' → (assess settings now info').result = (assess settings now info).result) ↔
      OrderFree settings now info := by
  have reflexive := NodeInfo.rearranges_refl info
  unfold OrderFree
  by_cases carries : info.node.hasGpu settings.gpuLabel = true
  · have result {info' : NodeInfo} (rearranged : info.Rearranges info') : (assess settings now info').result =
        .ok (ofGpu (gpuLoad (ratio settings now info' Resource.gpu))) :=
      result_of_gpu (by rw [rearranged.1]; exact carries)
    dsimp only
    rw [if_pos carries]
    constructor
    · intro every
      refine ⟨gpuLoad (ratio settings now info Resource.gpu), fun r c => ?_⟩
      have rearranged := rearranges_arranged settings now Resource.gpu r c info
      have same := every _ rearranged
      rw [result rearranged, result reflexive, ratio_arranged, Except.ok.injEq] at same
      exact congrArg Utilization.gpu same
    · rintro ⟨load, ends⟩ info' rearranged
      rw [result rearranged, result reflexive, gpuLoad_ratio_eq_of_ends rearranged ends,
        gpuLoad_ratio_eq_of_ends reflexive ends]
  · have result {info' : NodeInfo} (rearranged : info.Rearranges info') : (assess settings now info').result =
        loadsResult (ratio settings now info' Resource.cpu) (ratio settings now info' Resource.memory) :=
      result_of_loads (by rw [rearranged.1]; exact carries)
    dsimp only
    rw [if_neg carries]
    constructor
    · intro every
      refine ⟨(assess settings now info).result, loadsResult_ends_eq fun info' rearranged => ?_⟩
      rw [← result rearranged]
      exact every info' rearranged
    · rintro ⟨outcome, ends⟩ info' rearranged
      rw [result rearranged, result reflexive, loadsResult_eq_of_ends rearranged ends,
        loadsResult_eq_of_ends reflexive ends]

/-- A node on which one pod after the other requests an amount of processors. -/
def requesting (amounts : List Int) : NodeInfo where
  node := {
    name := "node"
    allocatable := Table.ofEntries [(Resource.cpu, .saturate 1000), (Resource.memory, .ofUnits 1)] }
  pods := amounts.map fun n =>
    { name := "pod", containers := [{ name := "main", requests := Table.ofEntries [(Resource.cpu, .saturate n)] }] }

example :
    (assess {} Instant.epoch (requesting [Quantity.maxMilli, 1000, -Quantity.maxMilli])).result =
        .ok (ofLoads 0.0 0.0) ∧
      (assess {} Instant.epoch (requesting [Quantity.maxMilli, -Quantity.maxMilli, 1000])).result =
        .ok (ofLoads 1.0 0.0) := by
  decide +kernel

end ClusterCost.Utilization
