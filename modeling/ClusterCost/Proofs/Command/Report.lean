import ClusterCost.Command.Report
import ClusterCost.Proofs.Binary64.Whole
import ClusterCost.Proofs.Json.Printing
import Mathlib.Data.List.Forall2

/-!
# What reports show

A report in lines shows every amount by a decimal with a fixed number of places, none of which is nearer to it
(`ShowsAmount`); a report in JSON is an object that a reader finds the facts of the report in (`Fact.SaidBy`), one member
for each. `Report.render_shows` says that of everything that is written for a report.
-/
namespace ClusterCost.Command

open Json (Numeral)

/-- A text is a decimal with a number of places, within half a unit of the last of them, or the name of what is not
finite. -/
def ShowsAmount (places : Nat) (x : Float) (s : String) : Prop :=
  match Decimal.Binary.ofFloat? x with
  | some b => ∃ n : Numeral, s.toList = n.chars ∧ n.IsToken ∧ n.negative = b.negative ∧ n.exponent = none ∧
      n.places.length = places ∧ |n.magnitude - b.magnitude| ≤ 1 / (2 * 10 ^ places)
  | none => s = String.ofList (Decimal.specialName x)

theorem showsAmount_fixed {places : Nat} (some_places : 0 < places) (x : Float) :
    ShowsAmount places x (Decimal.fixed places x) := by
  unfold ShowsAmount
  split
  · next b finite => exact Decimal.exists_token_of_fixed some_places finite
  · next infinite =>
    unfold Decimal.fixed
    rw [infinite]

/-- The lines of a report, with its amounts in any texts that show them. -/
inductive Report.Lines : Report → List String → Prop where
  | node {name : String} {instanceType : Option String} {e : Price.Estimate} {hours machine gpu total : String}
      (for_hours : ShowsAmount 4 e.hours hours) (for_machine : ShowsAmount 6 e.machine machine)
      (for_gpu : ShowsAmount 6 e.gpu gpu) (for_total : ShowsAmount 6 e.total total) :
      Lines (.node name instanceType e) [
        "node:      " ++ name,
        "instance:  " ++ instanceType.getD "<unknown>",
        "hours:     " ++ hours,
        "pricing:   " ++ e.basis.title ++ if e.preemptible then " (preemptible)" else "",
        "instance $ " ++ machine,
        "gpu $      " ++ gpu,
        "total $    " ++ total]
  | pod {key : String} {x y : Float} {hours total : String} (for_hours : ShowsAmount 4 x hours)
      (for_total : ShowsAmount 6 y total) : Lines (.pod key x y) [key ++ ": $" ++ total ++ " for " ++ hours ++ "h"]
  | utilization {name : String} {count : Nat} {u : Utilization} {cpu memory gpu value : String}
      (for_cpu : ShowsAmount 4 u.cpu cpu) (for_memory : ShowsAmount 4 u.memory memory)
      (for_gpu : ShowsAmount 4 u.gpu gpu) (for_value : ShowsAmount 4 u.value value) :
      Lines (.utilization name count u) [
        "node:        " ++ name ++ " (" ++ String.ofList (Nat.toDigits 10 count) ++ " pods)",
        "cpu:         " ++ cpu,
        "memory:      " ++ memory,
        "gpu:         " ++ gpu,
        "utilization: " ++ value ++ " (" ++ u.dominant.resource ++ ")"]

theorem Report.lines_shown (r : Report) : r.Lines r.lines := by
  have ratio (x : Float) : ShowsAmount 4 x (ratioText x) := showsAmount_fixed (by decide) x
  have price (x : Float) : ShowsAmount 6 x (priceText x) := showsAmount_fixed (by decide) x
  cases r with
  | node name instanceType e => exact .node (ratio _) (price _) (price _) (price _)
  | pod key hours total => exact .pod (ratio _) (price _)
  | utilization name count u =>
    have digits_eq : Text.numeral count = Nat.toDigits 10 count := by
      unfold Text.numeral
      rw [if_neg (by omega), Int.natAbs_natCast]
    unfold Report.lines
    dsimp only
    rw [digits_eq]
    exact .utilization (ratio _) (ratio _) (ratio _) (ratio _)

/-! ## Objects -/

inductive Fact where
  | text (s : String)
  | missing
  | flag (b : Bool)
  | count (n : Nat)
  | amount (x : Float)

/-- A value that was read says a fact. A finite amount is within half a unit of its last place of the number that the
token denotes. -/
inductive Fact.SaidBy : Fact → Json → Prop where
  | text (s : String) : SaidBy (.text s) (.string s)
  | missing : SaidBy .missing .null
  | flag (b : Bool) : SaidBy (.flag b) (.bool b)
  | count {n : Nat} {j : Json} (same : n ≤ Json.maxUnsigned → j = .number (.integer n)) : SaidBy (.count n) j
  | finite {x : Float} {b : Decimal.Binary} {n : Numeral} (finite : Decimal.Binary.ofFloat? x = some b)
      (token : n.IsToken) (sign : n.negative = b.negative) (near : |n.magnitude - b.magnitude| ≤ 2 ^ b.exponent / 2) :
      SaidBy (.amount x) (Json.ofNumber? n.toNumber?)
  | infinite {x : Float} (infinite : Decimal.Binary.ofFloat? x = none) : SaidBy (.amount x) .null

def Report.facts : Report → List (String × Fact)
  | .node name instanceType e => [
      ("node", .text name), ("instance_type", instanceType.elim .missing .text), ("hours", .amount e.hours),
      ("preemptible", .flag e.preemptible), ("basis", .text e.basis.name), ("instance", .amount e.machine),
      ("gpu", .amount e.gpu), ("total", .amount e.total)]
  | .pod key hours total => [("pod", .text key), ("hours", .amount hours), ("total", .amount total)]
  | .utilization name count u => [
      ("node", .text name), ("pods", .count count), ("cpu_util", .amount u.cpu), ("mem_util", .amount u.memory),
      ("gpu_util", .amount u.gpu), ("resource", .text u.dominant.name), ("utilization", .amount u.value)]

theorem saidBy_count (n : Nat) : (Fact.count n).SaidBy (Json.ofInt n).reread := by
  apply Fact.SaidBy.count
  intro small
  have digits_eq : Text.digitsValue (Nat.toDigits 10 n) = n := Text.digitsValue_toDigits n
  have unsigned : ¬((n : Int) < 0) := by omega
  have whole : (Json.Number.integer n).numeral.toNumber? = some (.integer n) := by
    simp [Json.Number.numeral, Numeral.toNumber?, Numeral.integer?, digits_eq, unsigned, small]
  rw [Json.ofInt, Json.reread, Json.Number.reread, whole]
  rfl

theorem saidBy_amount (x : Float) : (Fact.amount x).SaidBy (Json.ofFloat x).reread := by
  unfold Json.ofFloat
  split
  · next finite =>
    obtain ⟨b, exact_eq⟩ := Binary64.isFinite_iff.mp finite
    have bounded := Decimal.Binary.bounded_of_ofFloat? exact_eq
    have numeral_eq : (Json.Number.float x).numeral = Json.floatLayout.numeral b := by
      unfold Json.Number.numeral
      dsimp only
      rw [exact_eq]
    rw [Json.reread, Json.Number.reread, numeral_eq]
    exact .finite exact_eq (Decimal.isToken_numeral _ bounded) (Decimal.negative_numeral _ b)
      (Decimal.numeral_near _ bounded)
  · next infinite =>
    refine .infinite (Option.eq_none_iff_forall_ne_some.mpr fun b exact_eq => ?_)
    exact infinite (Binary64.isFinite_iff.mpr ⟨b, exact_eq⟩)

theorem isPrintable_amount (x : Float) : (Json.ofFloat x).IsPrintable := by
  unfold Json.ofFloat
  split
  · next finite => exact Binary64.isFinite_iff.mp finite
  · trivial

theorem reread_record (members : List (String × Json)) : (Json.record members).reread =
    .object (members.map fun member => (some member.1, member.2.reread)) := by
  rw [Json.record, Json.reread]
  congr 1
  induction members with
  | nil => rfl
  | cons member members ih => rw [List.map_cons, Json.rereadMembers, ih, List.map_cons]

theorem isPrintable_record {members : List (String × Json)} (printable : ∀ member ∈ members, member.2.IsPrintable) :
    (Json.record members).IsPrintable := by
  rw [Json.record, Json.IsPrintable]
  induction members with
  | nil => trivial
  | cons member members ih =>
    exact ⟨rfl, printable member List.mem_cons_self, ih fun other held => printable other (List.mem_cons_of_mem _ held)⟩

/-- The values of the members say the facts. -/
theorem Report.facts_said (r : Report) : ∃ members, r.toJson.reread = .object members ∧
    List.Forall₂ (fun fact member => member.1 = some fact.1 ∧ fact.2.SaidBy member.2) r.facts members := by
  cases r with
  | node name instanceType e =>
    have instance_said : (instanceType.elim Fact.missing .text).SaidBy (instanceType.elim Json.null .string).reread := by
      cases instanceType with
      | none => exact .missing
      | some t => exact .text t
    refine ⟨_, reread_record _, ?_⟩
    exact .cons ⟨rfl, .text name⟩ <| .cons ⟨rfl, instance_said⟩ <| .cons ⟨rfl, saidBy_amount _⟩ <|
      .cons ⟨rfl, .flag _⟩ <| .cons ⟨rfl, .text _⟩ <| .cons ⟨rfl, saidBy_amount _⟩ <|
      .cons ⟨rfl, saidBy_amount _⟩ <| .cons ⟨rfl, saidBy_amount _⟩ .nil
  | pod key hours total =>
    refine ⟨_, reread_record _, ?_⟩
    exact .cons ⟨rfl, .text key⟩ <| .cons ⟨rfl, saidBy_amount _⟩ <| .cons ⟨rfl, saidBy_amount _⟩ .nil
  | utilization name count u =>
    refine ⟨_, reread_record _, ?_⟩
    exact .cons ⟨rfl, .text name⟩ <| .cons ⟨rfl, saidBy_count count⟩ <| .cons ⟨rfl, saidBy_amount _⟩ <|
      .cons ⟨rfl, saidBy_amount _⟩ <| .cons ⟨rfl, saidBy_amount _⟩ <| .cons ⟨rfl, .text _⟩ <|
      .cons ⟨rfl, saidBy_amount _⟩ .nil

theorem Report.isPrintable_toJson (r : Report) : r.toJson.IsPrintable := by
  cases r with
  | node name instanceType e =>
    apply isPrintable_record
    cases instanceType <;> simp [Json.IsPrintable, isPrintable_amount]
  | pod key hours total =>
    apply isPrintable_record
    simp [Json.IsPrintable, isPrintable_amount]
  | utilization name count u =>
    apply isPrintable_record
    simp [Json.IsPrintable, Json.ofInt, Json.Number.IsFinite, isPrintable_amount]

/-! ## Both forms -/

def Report.Shows (r : Report) : Format → String → Prop
  | .text, s => ∃ lines, r.Lines lines ∧ s = String.join (lines.map (· ++ "\n"))
  | .json, s => ∃ members, Json.Document.parse s = ⟨.object members, true⟩ ∧
      List.Forall₂ (fun fact member => member.1 = some fact.1 ∧ fact.2.SaidBy member.2) r.facts members

/-- What is written for a report shows it. -/
theorem Report.render_shows (r : Report) (f : Format) : r.Shows f (r.render f) := by
  cases f with
  | text => exact ⟨_, r.lines_shown, rfl⟩
  | json =>
    obtain ⟨members, reread_eq, said⟩ := r.facts_said
    refine ⟨members, ?_, said⟩
    have parsed := Json.parse_pretty r.isPrintable_toJson
    rw [reread_eq] at parsed
    exact parsed

end ClusterCost.Command
