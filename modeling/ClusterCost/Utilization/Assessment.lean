import ClusterCost.Log
import ClusterCost.Utilization.Ratio

/-!
# The utilization of a node

A node with graphics processors is judged by these alone; if they are not ready, it counts as idle, and a notice says so.
Any other node is judged by the larger of its processor and memory utilization, by memory if they are equal.
-/
namespace ClusterCost

inductive DominantResource where
  | cpu
  | memory
  | gpu
  deriving DecidableEq, Repr

def DominantResource.name : DominantResource → String
  | .cpu => "cpu"
  | .memory => "memory"
  | .gpu => "gpu"

def DominantResource.resource : DominantResource → String
  | .cpu => Resource.cpu
  | .memory => Resource.memory
  | .gpu => Resource.gpu

/-- The utilization of a node: of each resource, and of the one that decides. -/
structure Utilization where
  cpu : Float := 0.0
  memory : Float := 0.0
  gpu : Float := 0.0
  dominant : DominantResource := .memory
  value : Float := 0.0
  deriving DecidableEq

namespace Utilization

/-- What an assessment reports beside its result. -/
inductive Notice where
  | unreadyGpu (node : String) (cause : Fault)
  deriving DecidableEq, Repr

def Notice.event : Notice → Log.Event
  | .unreadyGpu node cause =>
    { level := .debug
      message := "node has unready GPU"
      fields := [("node", .text node), ("error", .text cause.message)] }

/-- The result of assessing a node, and what was reported on the way. -/
structure Assessment where
  result : Except Fault Utilization
  notices : List Notice := []

def ofGpu (load : Float) : Utilization :=
  { gpu := load, dominant := .gpu, value := load }

def ofLoads (cpu memory : Float) : Utilization :=
  if cpu > memory then { cpu, memory, dominant := .cpu, value := cpu }
  else { cpu, memory, dominant := .memory, value := memory }

def assessGpu (settings : UtilizationSettings) (now : Instant) (info : NodeInfo) : Assessment :=
  match ratio settings now info Resource.gpu with
  | .ok load => { result := .ok (ofGpu load) }
  | .error cause => { result := .ok (ofGpu 0.0), notices := [.unreadyGpu info.node.name cause] }

def assessLoads (settings : UtilizationSettings) (now : Instant) (info : NodeInfo) : Assessment :=
  { result := do
      let cpu ← ratio settings now info Resource.cpu
      let memory ← ratio settings now info Resource.memory
      .ok (ofLoads cpu memory) }

def assess (settings : UtilizationSettings) (now : Instant) (info : NodeInfo) : Assessment :=
  if info.node.hasGpu settings.gpuLabel then assessGpu settings now info else assessLoads settings now info

end Utilization

end ClusterCost
