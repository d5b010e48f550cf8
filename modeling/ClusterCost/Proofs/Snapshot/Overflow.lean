import ClusterCost.Proofs.Outcome
import ClusterCost.Proofs.Quantity.Reading
import ClusterCost.Snapshot.Decode

/-!
# Where the reading of a snapshot breaks off

The readers of snapshots report every fault of their own. What breaks them off comes from below: a text within the tree
that is read as a quantity and whose sum leaves its word (`Snapshot.Overflows`). Each reader is followed down to its
quantities, the ones for records field by field.
-/
namespace ClusterCost

open Json (Field Reader)

/-- Within a tree there is a text whose reading as a quantity breaks off. -/
inductive Snapshot.Overflows : Json → Prop where
  | text {s : String} (aborts : Quantity.parse s = .error .aborted) : Overflows (.string s)
  | item {items : List Json} {item : Json} (held : item ∈ items) (overflows : Overflows item) :
      Overflows (.array items)
  | member {members : List (Option String × Json)} {member : Option String × Json} (held : member ∈ members)
      (overflows : Overflows member.2) : Overflows (.object members)

open Snapshot (Overflows)

/-- Such a text spells a fraction of two words whose sum is none. -/
theorem Snapshot.Overflows.exists_spelling {j : Json} (overflows : Overflows j) :
    ∃ (s : String) (p : Quantity.Spelling), p.SpelledBy s ∧ p.Fits ∧ 2 ^ 127 - 1 < p.numerator + p.divisor := by
  induction overflows with
  | text aborts => exact ⟨_, Quantity.parse_eq_aborted_iff.mp aborts⟩
  | item held overflows ih => exact ih
  | member held overflows ih => exact ih

section Readers

variable {α β φ : Type} {read : Snapshot.Reader α}

/-- A reader is broken off by such texts only. -/
def StopsAtOverflow (read : Snapshot.Reader α) : Prop :=
  ∀ j, read j = .error (.content .aborted) → Overflows j

theorem mismatch_ne_content (j : Json) (cause : Snapshot.Cause) :
    (Json.mismatch j : Except Snapshot.Fault α) ≠ .error (.content cause) := by
  intro failed
  unfold Json.mismatch at failed
  split at failed <;> cases failed

theorem StopsAtOverflow.map (stops : StopsAtOverflow read) (f : α → β) : StopsAtOverflow fun j => f <$> read j :=
  fun j aborted => stops j (map_eq_error.mp aborted)

theorem stopsAtOverflow_text : StopsAtOverflow Json.readText := by
  intro j aborted
  unfold Json.readText at aborted
  split at aborted
  · cases aborted
  · exact absurd aborted (mismatch_ne_content _ _)

theorem stopsAtOverflow_bool : StopsAtOverflow Json.readBool := by
  intro j aborted
  unfold Json.readBool at aborted
  split at aborted
  · cases aborted
  · exact absurd aborted (mismatch_ne_content _ _)

theorem stopsAtOverflow_seconds : StopsAtOverflow readSeconds := by
  intro j aborted
  unfold readSeconds at aborted
  split at aborted
  · cases aborted
  · split at aborted <;> cases aborted
  · exact absurd aborted (mismatch_ne_content _ _)

/-- A number that denotes no quantity is reported. -/
theorem stopsAtOverflow_quantity : StopsAtOverflow Quantity.ofJson := by
  intro j aborted
  cases j with
  | string s =>
    obtain ⟨halt, aborts, cause_eq⟩ := mapError_eq_error.mp aborted
    obtain rfl : halt = .aborted := by simpa using cause_eq
    exact .text aborts
  | number n =>
    obtain ⟨cause, -, cause_eq⟩ := mapError_eq_error.mp aborted
    cases cause_eq
  | _ => cases aborted

theorem stopsAtOverflow_list (stops : StopsAtOverflow read) : StopsAtOverflow (Json.readList read) := by
  intro j aborted
  cases j with
  | array items =>
    replace aborted : items.mapM read = .error (.content .aborted) := aborted
    induction items with
    | nil => cases aborted
    | cons item items ih =>
      rw [List.mapM_cons, bind_eq_error] at aborted
      rcases aborted with first | ⟨a, -, others⟩
      · exact .item List.mem_cons_self (stops item first)
      · rcases bind_eq_error.mp others with others | ⟨as, -, done⟩
        · cases ih others with
          | item held overflows => exact .item (List.mem_cons_of_mem _ held) overflows
        · cases done
  | _ => cases aborted

theorem stopsAtOverflow_table (stops : StopsAtOverflow read) : StopsAtOverflow (Table.ofJson read) := by
  intro j aborted
  cases j with
  | object members =>
    replace aborted := map_eq_error.mp aborted
    induction members with
    | nil => cases aborted
    | cons member members ih =>
      obtain ⟨name | name, value⟩ := member
      · cases aborted
      · rcases bind_eq_error.mp aborted with first | ⟨a, -, others⟩
        · exact .member List.mem_cons_self (stops value first)
        · rcases bind_eq_error.mp others with others | ⟨as, -, done⟩
          · cases ih others with
            | member held overflows => exact .member (List.mem_cons_of_mem _ held) overflows
          · cases done
  | _ => cases aborted

theorem stopsAtOverflow_items {fields : List (Field Snapshot.Cause φ)} {items : List Json}
    (stops : ∀ field ∈ fields, StopsAtOverflow field.read)
    (aborted : Json.readItemsOf fields items = .error (.content .aborted)) : ∃ item ∈ items, Overflows item := by
  induction items generalizing fields with
  | nil => cases fields <;> cases aborted
  | cons item items ih =>
    cases fields with
    | nil => cases aborted
    | cons field fields =>
      rcases bind_eq_error.mp aborted with first | ⟨a, -, others⟩
      · exact ⟨item, List.mem_cons_self, stops field List.mem_cons_self item first⟩
      · rcases bind_eq_error.mp others with others | ⟨as, -, done⟩
        · obtain ⟨other, held, overflows⟩ := ih (fun field held => stops field (List.mem_cons_of_mem _ held)) others
          exact ⟨other, List.mem_cons_of_mem _ held, overflows⟩
        · cases done

theorem stopsAtOverflow_members {fields : List (Field Snapshot.Cause φ)} {seen : List String}
    {members : List (Option String × Json)} (stops : ∀ field ∈ fields, StopsAtOverflow field.read)
    (aborted : Json.readMembersOf fields seen members = .error (.content .aborted)) :
    ∃ member ∈ members, Overflows member.2 := by
  induction members generalizing seen with
  | nil => cases aborted
  | cons member members ih =>
    obtain ⟨name | name, value⟩ := member
    · cases aborted
    · have later (seen : List String) (others : Json.readMembersOf fields seen members = .error (.content .aborted)) :
          ∃ member ∈ (some name, value) :: members, Overflows member.2 := by
        obtain ⟨other, held, overflows⟩ := ih others
        exact ⟨other, List.mem_cons_of_mem _ held, overflows⟩
      rw [Json.readMembersOf] at aborted
      split at aborted
      · next field found =>
        split at aborted
        · cases aborted
        · rcases bind_eq_error.mp aborted with first | ⟨a, -, others⟩
          · exact ⟨_, List.mem_cons_self, stops field (List.mem_of_find?_eq_some found) value first⟩
          · rcases bind_eq_error.mp others with others | ⟨as, -, done⟩
            · exact later _ others
            · cases done
      · split at aborted
        · exact later _ aborted
        · cases aborted

theorem stopsAtOverflow_fields {fields : List (Field Snapshot.Cause φ)}
    (stops : ∀ field ∈ fields, StopsAtOverflow field.read) : StopsAtOverflow (Json.readFields fields) := by
  intro j aborted
  cases j with
  | object members =>
    obtain ⟨member, held, overflows⟩ := stopsAtOverflow_members stops aborted
    exact .member held overflows
  | array items =>
    obtain ⟨item, held, overflows⟩ := stopsAtOverflow_items stops aborted
    exact .item held overflows
  | _ => cases aborted

/-- A field that is not there is a fault of its own. -/
theorem required_bind_ne_content {name : String} {pick : φ → Option α} {values : List φ}
    {next : α → Except Snapshot.Fault β} {cause : Snapshot.Cause} (reports : ∀ a, next a ≠ .error (.content cause)) :
    (Json.required name pick values >>= next) ≠ .error (.content cause) := by
  intro failed
  rcases bind_eq_error.mp failed with failed | ⟨a, -, failed⟩
  · unfold Json.required at failed
    split at failed <;> cases failed
  · exact reports a failed

end Readers

/-! ## Snapshots -/

theorem stopsAtOverflow_resources : StopsAtOverflow Resources.ofJson :=
  stopsAtOverflow_table stopsAtOverflow_quantity

/-- What fails after the fields have been read is a field that is not there. -/
theorem stopsAtOverflow_record {α φ : Type} {fields : List (Field Snapshot.Cause φ)}
    {ofItems : List φ → Except Snapshot.Fault α} (stops : ∀ field ∈ fields, StopsAtOverflow field.read)
    (reports : ∀ items, ofItems items ≠ .error (.content .aborted)) :
    StopsAtOverflow fun j => Json.readFields fields j >>= ofItems := by
  intro j aborted
  rcases bind_eq_error.mp aborted with fields_aborted | ⟨items, -, failed⟩
  · exact stopsAtOverflow_fields stops j fields_aborted
  · exact absurd failed (reports items)

theorem stopsAtOverflow_node : StopsAtOverflow Node.ofJson := by
  refine stopsAtOverflow_record ?_ ?_
  · simp only [Node.fields, List.forall_mem_cons, List.not_mem_nil, false_imp_iff, implies_true, and_true]
    exact ⟨stopsAtOverflow_text.map _, (stopsAtOverflow_table stopsAtOverflow_text).map _,
      stopsAtOverflow_resources.map _, stopsAtOverflow_resources.map _⟩
  · exact fun items => required_bind_ne_content fun _ => nofun

theorem stopsAtOverflow_owner : StopsAtOverflow OwnerReference.ofJson := by
  refine stopsAtOverflow_record ?_ ?_
  · simp only [OwnerReference.fields, List.forall_mem_cons, List.not_mem_nil, false_imp_iff, implies_true, and_true]
    exact ⟨stopsAtOverflow_text.map _, stopsAtOverflow_text.map _, stopsAtOverflow_bool.map _⟩
  · exact fun items => required_bind_ne_content fun _ => required_bind_ne_content fun _ => nofun

theorem stopsAtOverflow_container : StopsAtOverflow Container.ofJson := by
  refine stopsAtOverflow_record ?_ ?_
  · simp only [Container.fields, List.forall_mem_cons, List.not_mem_nil, false_imp_iff, implies_true, and_true]
    exact ⟨stopsAtOverflow_text.map _, stopsAtOverflow_resources.map _⟩
  · exact fun items => required_bind_ne_content fun _ => nofun

theorem stopsAtOverflow_pod : StopsAtOverflow Pod.ofJson := by
  refine stopsAtOverflow_record ?_ ?_
  · simp only [Pod.fields, List.forall_mem_cons, List.not_mem_nil, false_imp_iff, implies_true, and_true]
    exact ⟨stopsAtOverflow_text.map _, stopsAtOverflow_text.map _, (stopsAtOverflow_table stopsAtOverflow_text).map _,
      (stopsAtOverflow_list stopsAtOverflow_owner).map _, (stopsAtOverflow_list stopsAtOverflow_container).map _,
      stopsAtOverflow_seconds.map _, stopsAtOverflow_seconds.map _⟩
  · exact fun items => required_bind_ne_content fun _ => nofun

theorem stopsAtOverflow_nodeInfo : StopsAtOverflow NodeInfo.ofJson := by
  refine stopsAtOverflow_record ?_ ?_
  · simp only [NodeInfo.fields, List.forall_mem_cons, List.not_mem_nil, false_imp_iff, implies_true, and_true]
    exact ⟨stopsAtOverflow_node.map _, (stopsAtOverflow_list stopsAtOverflow_pod).map _⟩
  · exact fun items => required_bind_ne_content fun _ => nofun

/-- A document whose reading breaks off holds such a text. -/
theorem StopsAtOverflow.document {α : Type} {read : Snapshot.Reader α} (stops : StopsAtOverflow read)
    {d : Json.Document} (aborted : d.read read = .error (.content .aborted)) : Overflows d.root := by
  rcases bind_eq_error.mp aborted with aborted | ⟨a, -, trailing⟩
  · exact stops _ aborted
  · split at trailing <;> cases trailing

end ClusterCost
