import ClusterCost.Proofs.Price.Dependence
import ClusterCost.Session

/-!
# What a session keeps

A change is about one part of a session, and a step leaves the other parts as they were; a refused change leaves all of
them. So a run differs from its start in those parts only that one of its changes is about (`run_alike`). A price that
reads none of them stays, and so does an assessment.
-/
namespace ClusterCost.Session

inductive Part where
  | labels | capacity | allocatable | pods | settings | catalog | now | window
  deriving DecidableEq, Repr

def Change.part : Change → Part
  | .label _ _ => .labels
  | .unlabel _ => .labels
  | .capacity _ _ => .capacity
  | .allocatable _ _ => .allocatable
  | .addPod _ => .pods
  | .removePod _ => .pods
  | .deletePod _ _ _ => .pods
  | .settings _ => .settings
  | .catalog _ => .catalog
  | .now _ => .now
  | .window _ => .window

/-- Two sessions of one node that differ in the touched parts at most. -/
structure AlikeBut (touched : Part → Prop) (s s' : Session) : Prop where
  name : s'.info.node.name = s.info.node.name
  labels : ¬touched .labels → s'.info.node.labels = s.info.node.labels
  capacity : ¬touched .capacity → s'.info.node.capacity = s.info.node.capacity
  allocatable : ¬touched .allocatable → s'.info.node.allocatable = s.info.node.allocatable
  pods : ¬touched .pods → s'.info.pods = s.info.pods
  settings : ¬touched .settings → s'.settings = s.settings
  catalog : ¬touched .catalog → s'.catalog = s.catalog
  now : ¬touched .now → s'.now = s.now
  window : ¬touched .window → s'.window = s.window

section Frames

variable {touched touched' : Part → Prop} {s s' s'' : Session} {c : Change} {changes : List Change}

theorem AlikeBut.refl (touched : Part → Prop) (s : Session) : AlikeBut touched s s :=
  ⟨rfl, fun _ => rfl, fun _ => rfl, fun _ => rfl, fun _ => rfl, fun _ => rfl, fun _ => rfl, fun _ => rfl, fun _ => rfl⟩

theorem AlikeBut.mono (wider : ∀ part, touched part → touched' part) (alike : AlikeBut touched s s') :
    AlikeBut touched' s s' where
  name := alike.name
  labels still := alike.labels (mt (wider _) still)
  capacity still := alike.capacity (mt (wider _) still)
  allocatable still := alike.allocatable (mt (wider _) still)
  pods still := alike.pods (mt (wider _) still)
  settings still := alike.settings (mt (wider _) still)
  catalog still := alike.catalog (mt (wider _) still)
  now still := alike.now (mt (wider _) still)
  window still := alike.window (mt (wider _) still)

theorem AlikeBut.trans (first : AlikeBut touched s s') (second : AlikeBut touched s' s'') :
    AlikeBut touched s s'' where
  name := second.name.trans first.name
  labels still := (second.labels still).trans (first.labels still)
  capacity still := (second.capacity still).trans (first.capacity still)
  allocatable still := (second.allocatable still).trans (first.allocatable still)
  pods still := (second.pods still).trans (first.pods still)
  settings still := (second.settings still).trans (first.settings still)
  catalog still := (second.catalog still).trans (first.catalog still)
  now still := (second.now still).trans (first.now still)
  window still := (second.window still).trans (first.window still)

/-! ## Steps -/

theorem after?_removePod {index : Nat} : s.after? (.removePod index) = some s' ↔
    index < s.info.pods.length ∧ s' = s.withPods (s.info.pods.eraseIdx index) := by
  simp [after?, eq_comm]

theorem after?_deletePod {index : Nat} {deletionTime gracePeriod : Option UInt64} :
    s.after? (.deletePod index deletionTime gracePeriod) = some s' ↔ ∃ p, s.info.pods[index]? = some p ∧
      s' = s.withPods (s.info.pods.set index { p with deletionTime, gracePeriod }) := by
  cases there : s.info.pods[index]? <;> simp [after?, there, eq_comm]

/-- A change is refused exactly if it is about a pod that is not there. -/
theorem after?_eq_none_iff : s.after? c = none ↔
    ∃ index, s.info.pods.length ≤ index ∧
      (c = .removePod index ∨ ∃ deletionTime gracePeriod, c = .deletePod index deletionTime gracePeriod) := by
  cases c with
  | removePod index => simp [after?]
  | deletePod index deletionTime gracePeriod =>
    cases there : s.info.pods[index]? with
    | none => simpa [after?, there] using List.getElem?_eq_none_iff.mp there
    | some p =>
      obtain ⟨placed, -⟩ := List.getElem?_eq_some_iff.mp there
      simpa [after?, there] using placed
  | _ => simp [after?]

theorem step_of_refused (refused : s.after? c = none) : s.step c = s := by
  unfold step
  rw [refused]
  rfl

theorem withPods_alike (pods : List Pod) (s : Session) : AlikeBut (· = .pods) s (s.withPods pods) := by
  constructor <;> simp [withPods]

theorem after?_alike (accepted : s.after? c = some s') : AlikeBut (· = c.part) s s' := by
  cases c with
  | addPod p =>
    cases accepted
    exact withPods_alike _ s
  | removePod index =>
    obtain ⟨-, rfl⟩ := after?_removePod.mp accepted
    exact withPods_alike _ s
  | deletePod index deletionTime gracePeriod =>
    obtain ⟨p, -, rfl⟩ := after?_deletePod.mp accepted
    exact withPods_alike _ s
  | _ =>
    cases accepted
    constructor <;> simp [Change.part, mapNode]

/-- A step touches the part that its change is about. -/
theorem step_alike (s : Session) (c : Change) : AlikeBut (· = c.part) s (s.step c) := by
  cases outcome : s.after? c with
  | none =>
    rw [step_of_refused outcome]
    exact .refl _ s
  | some s' =>
    unfold step
    rw [outcome]
    exact after?_alike outcome

/-! ## Runs -/

/-- A run touches the parts that its changes are about. -/
theorem run_alike (s : Session) (changes : List Change) :
    AlikeBut (fun part => ∃ c ∈ changes, c.part = part) s (s.run changes) := by
  induction changes generalizing s with
  | nil => exact .refl _ s
  | cons c changes ih =>
    have first : AlikeBut (fun part => ∃ c' ∈ c :: changes, c'.part = part) s (s.step c) :=
      (step_alike s c).mono fun part touched => ⟨c, List.mem_cons_self, touched.symm⟩
    have others : AlikeBut (fun part => ∃ c' ∈ c :: changes, c'.part = part) (s.step c) ((s.step c).run changes) :=
      (ih (s.step c)).mono fun part ⟨c', held, touched⟩ => ⟨c', List.mem_cons_of_mem c held, touched⟩
    exact first.trans others

/-- The price of a node reads neither what it can allocate, nor its pods, nor the clock. -/
theorem run_estimate
    (untouched : ∀ c ∈ changes, c.part = .allocatable ∨ c.part = .pods ∨ c.part = .now) :
    (s.run changes).estimate.value = s.estimate.value := by
  have alike := run_alike s changes
  have still {part : Part} (read : part ≠ .allocatable ∧ part ≠ .pods ∧ part ≠ .now) :
      ¬∃ c ∈ changes, c.part = part := by
    rintro ⟨c, held, rfl⟩
    rcases untouched c held with same | same | same
    · exact read.1 same
    · exact read.2.1 same
    · exact read.2.2 same
  have labels := alike.labels (still (by decide))
  have capacity := alike.capacity (still (by decide))
  have nodes (gpuLabel : String) : (s.run changes).info.node.PricedAlike gpuLabel s.info.node := by
    constructor <;> simp only [Node.instanceType, Node.isPreemptible, labels, capacity]
  unfold estimate model
  rw [alike.settings (still (by decide)), alike.catalog (still (by decide)), alike.window (still (by decide))]
  exact Price.Model.estimate_congr _ (nodes _) (.refl _ _ _)

/-- The assessment of a node reads neither the catalog nor the window that it is priced over. -/
theorem run_assess (untouched : ∀ c ∈ changes, c.part = .catalog ∨ c.part = .window) :
    (s.run changes).assess = s.assess := by
  have alike := run_alike s changes
  have still {part : Part} (read : part ≠ .catalog ∧ part ≠ .window) : ¬∃ c ∈ changes, c.part = part := by
    rintro ⟨c, held, rfl⟩
    rcases untouched c held with same | same
    · exact read.1 same
    · exact read.2 same
  have node_eq : (s.run changes).info.node = s.info.node := by
    have labels := alike.labels (still (by decide))
    have capacity := alike.capacity (still (by decide))
    have allocatable := alike.allocatable (still (by decide))
    have name := alike.name
    generalize (s.run changes).info.node = n at *
    cases n
    simp_all
  have info_eq : (s.run changes).info = s.info := by
    have pods := alike.pods (still (by decide))
    generalize (s.run changes).info = info at *
    cases info
    simp_all
  unfold assess
  rw [info_eq, alike.settings (still (by decide)), alike.now (still (by decide))]

end Frames

/-! ## Pods -/

/-- A pod is another one, up to the mark of its deletion. -/
def UpToDeletion (p q : Pod) : Prop :=
  ∃ deletionTime gracePeriod, p = { q with deletionTime, gracePeriod }

theorem UpToDeletion.refl (p : Pod) : UpToDeletion p p :=
  ⟨p.deletionTime, p.gracePeriod, rfl⟩

theorem UpToDeletion.trans {p q r : Pod} (first : UpToDeletion p q) (second : UpToDeletion q r) :
    UpToDeletion p r := by
  obtain ⟨t, g, rfl⟩ := first
  obtain ⟨t', g', rfl⟩ := second
  exact ⟨t, g, rfl⟩

/-- A step that is not about pods keeps them, and the others add one, take one away or mark one. -/
theorem step_pods (s : Session) (c : Change) :
    ∀ p ∈ (s.step c).info.pods, ∃ q, (q ∈ s.info.pods ∨ c = .addPod q) ∧ UpToDeletion p q := by
  intro p held
  by_cases touched : .pods = c.part
  · cases outcome : s.after? c with
    | none =>
      rw [step_of_refused outcome] at held
      exact ⟨p, .inl held, .refl p⟩
    | some s' =>
      unfold step at held
      rw [outcome] at held
      cases c with
      | addPod q =>
        cases outcome
        rcases List.mem_append.mp held with held | added
        · exact ⟨p, .inl held, .refl p⟩
        · exact ⟨p, .inr (congrArg _ (List.mem_singleton.mp added).symm), .refl p⟩
      | removePod index =>
        obtain ⟨-, rfl⟩ := after?_removePod.mp outcome
        exact ⟨p, .inl (List.mem_of_mem_eraseIdx held), .refl p⟩
      | deletePod index deletionTime gracePeriod =>
        obtain ⟨q, there, rfl⟩ := after?_deletePod.mp outcome
        rcases List.mem_or_eq_of_mem_set held with held | rfl
        · exact ⟨p, .inl held, .refl p⟩
        · exact ⟨q, .inl (List.mem_of_getElem? there), deletionTime, gracePeriod, rfl⟩
      | _ => cases touched
  · rw [(step_alike s c).pods touched] at held
    exact ⟨p, .inl held, .refl p⟩

/-- The pods of a run are those that were there and those that were added, up to the marks of their deletion. -/
theorem run_pods (s : Session) (changes : List Change) :
    ∀ p ∈ (s.run changes).info.pods, ∃ q, (q ∈ s.info.pods ∨ .addPod q ∈ changes) ∧ UpToDeletion p q := by
  induction changes generalizing s with
  | nil => exact fun p held => ⟨p, .inl held, .refl p⟩
  | cons c changes ih =>
    intro p held
    obtain ⟨q, origin, marks⟩ := ih (s.step c) p held
    rcases origin with held' | added
    · obtain ⟨q', origin', marks'⟩ := step_pods s c q held'
      refine ⟨q', origin'.imp_right fun same => ?_, marks.trans marks'⟩
      rw [same]
      exact List.mem_cons_self
    · exact ⟨q, .inr (List.mem_cons_of_mem c added), marks⟩

end ClusterCost.Session
