import ClusterCost.Text.Blank
import ClusterCost.Text.Numeral
import Mathlib.Algebra.Group.Nat.Defs
import Mathlib.Tactic.ByContra

/-!
# Runs of decimal digits

`Digits` is a text of ASCII digits and nothing else; `Digits.value` is its number by place values, from the first digit
on. The readers fold from the left instead, and `digitsValue_eq` says that this is the same number.

The bounded readers accept exactly an optional sign and a nonempty run of digits whose number is within the bounds
(`unsigned?_eq_some_iff`, `signed?_eq_some_iff`).
-/
namespace ClusterCost.Text

/-- A text of ASCII digits, which may be empty. -/
structure Digits where
  chars : List Char
  isDigit : ∀ c ∈ chars, c.isDigit = true

def digitNumber (c : Char) : Nat :=
  c.toNat - '0'.toNat

/-- The number of a run of digits by place values. -/
def placeValue : List Char → Nat
  | [] => 0
  | c :: cs => digitNumber c * 10 ^ cs.length + placeValue cs

namespace Digits

def empty : Digits := ⟨[], by simp⟩

def value (ds : Digits) : Nat :=
  placeValue ds.chars

end Digits

/-- A left fold multiplies what it has by ten for every digit that follows. -/
theorem ofDigitChars_eq_placeValue (cs : List Char) (start : Nat) :
    Nat.ofDigitChars 10 cs start = start * 10 ^ cs.length + placeValue cs := by
  induction cs generalizing start with
  | nil => simp [placeValue]
  | cons c cs ih =>
    rw [Nat.ofDigitChars_cons, ih, placeValue, List.length_cons, Nat.pow_succ, digitNumber, Nat.add_mul]
    have carried : 10 * start * 10 ^ cs.length = start * (10 ^ cs.length * 10) := by
      rw [Nat.mul_comm 10 start, Nat.mul_assoc, Nat.mul_comm 10]
    omega

/-- The readers' number of a run of digits is its number by place values. -/
theorem digitsValue_eq (ds : Digits) : digitsValue ds.chars = ds.value := by
  unfold digitsValue Digits.value
  rw [ofDigitChars_eq_placeValue]
  omega

theorem isDigits_iff (ds : Digits) : isDigits ds.chars = true ↔ ds.chars ≠ [] := by
  unfold isDigits
  rw [Bool.and_eq_true, List.all_eq_true]
  constructor
  · rintro ⟨nonempty, _⟩ absent
    simp [absent] at nonempty
  · intro nonempty
    exact ⟨by simp [nonempty], ds.isDigit⟩

/-- What the readers take for a nonempty run of digits is one. -/
theorem exists_digits {cs : List Char} (h : isDigits cs = true) : ∃ ds : Digits, ds.chars = cs ∧ ds.chars ≠ [] := by
  have digits := h
  unfold isDigits at digits
  rw [Bool.and_eq_true, List.all_eq_true] at digits
  let ds : Digits := ⟨cs, digits.2⟩
  exact ⟨ds, rfl, (isDigits_iff ds).mp h⟩

/-- The digits are the ten characters from `0` on. -/
theorem isDigit_iff (c : Char) : c.isDigit = true ↔ 48 ≤ c.toNat ∧ c.toNat ≤ 57 := by
  simp only [Char.isDigit, Bool.and_eq_true, decide_eq_true_eq, ge_iff_le, UInt32.le_iff_toNat_le]
  rfl

theorem isBlank_of_isDigit {c : Char} (digit : c.isDigit = true) : isBlank c = false := by
  have range := (isDigit_iff c).mp digit
  simp only [isBlank, Bool.or_eq_false_iff, Bool.and_eq_false_iff, decide_eq_false_iff_not, beq_eq_false_iff_ne]
  omega

theorem digitNumber_le {c : Char} (digit : c.isDigit = true) : digitNumber c ≤ 9 := by
  have range := (isDigit_iff c).mp digit
  change c.toNat - 48 ≤ 9
  omega

theorem placeValue_lt {cs : List Char} (digits : ∀ c ∈ cs, c.isDigit = true) : placeValue cs < 10 ^ cs.length := by
  induction cs with
  | nil => simp [placeValue]
  | cons c cs ih =>
    have others := ih fun d member => digits d (List.mem_cons_of_mem _ member)
    have first := Nat.mul_le_mul_right (10 ^ cs.length) (digitNumber_le (digits c List.mem_cons_self))
    rw [placeValue, List.length_cons, Nat.pow_succ]
    omega

theorem placeValue_append (cs ds : List Char) :
    placeValue (cs ++ ds) = placeValue cs * 10 ^ ds.length + placeValue ds := by
  induction cs with
  | nil => simp [placeValue]
  | cons c cs ih =>
    rw [List.cons_append, placeValue, placeValue, ih, List.length_append, Nat.pow_add, Nat.add_mul, Nat.mul_assoc,
      Nat.add_assoc]

theorem placeValue_zeros (n : Nat) : placeValue (List.replicate n '0') = 0 := by
  induction n with
  | zero => rfl
  | succ n ih => rw [List.replicate_succ, placeValue, ih, digitNumber, Nat.sub_self, Nat.zero_mul]

theorem placeValue_toDigits (n : Nat) : placeValue (Nat.toDigits 10 n) = n := by
  have folded := ofDigitChars_eq_placeValue (Nat.toDigits 10 n) 0
  rw [Nat.zero_mul, Nat.zero_add] at folded
  exact folded.symm.trans (digitsValue_toDigits n)

theorem isDigit_of_mem_toDigits {n : Nat} : ∀ c ∈ Nat.toDigits 10 n, c.isDigit = true :=
  fun _ member => Nat.isDigit_of_mem_toDigits (by omega) (by omega) member

/-- Only zero is written with a zero in front. -/
theorem head_toDigits_ne {n : Nat} (pos : 0 < n) : (Nat.toDigits 10 n).head? ≠ some '0' := by
  induction n using Nat.strongRecOn with
  | ind n ih =>
    rcases Nat.lt_or_ge n 10 with one_digit | more
    · have table : ∀ d < 10, 0 < d → [Nat.digitChar d].head? ≠ some '0' := by decide
      rw [Nat.toDigits_of_lt_base one_digit]
      exact table n one_digit pos
    · have front := ih (n / 10) (by omega) (by omega)
      rw [Nat.toDigits_of_base_le (by omega) more]
      obtain ⟨c, cs, digits_eq⟩ := List.exists_cons_of_ne_nil (Nat.toDigits_ne_nil (n := n / 10) (b := 10))
      rw [digits_eq] at front ⊢
      exact front

/-! ## Signed numbers -/

/-- What may stand before a number. -/
inductive Sign where
  | none
  | plus
  | minus
  deriving DecidableEq, Repr

namespace Sign

def chars : Sign → List Char
  | .none => []
  | .plus => ['+']
  | .minus => ['-']

def apply : Sign → Int → Int
  | .minus, n => -n
  | _, n => n

theorem apply_eq (sign : Sign) (n : Int) : sign.apply n = if sign = .minus then -n else n := by
  cases sign with
  | none | plus | minus => rfl

theorem isBlank_of_mem (sign : Sign) : ∀ c ∈ sign.chars, isBlank c = false := by
  intro c member
  cases sign with
  | none => cases member
  | plus | minus =>
    rw [List.mem_singleton.mp member]
    decide

end Sign

/-- A nonempty run of digits starts with no sign. -/
theorem head_ne_of_digits {ds : Digits} {c : Char} {rest : List Char} (spelled : ds.chars = c :: rest) :
    c ≠ '+' ∧ c ≠ '-' := by
  have digit : c.isDigit = true := ds.isDigit c (by simp [spelled])
  constructor
  · rintro rfl
    cases digit
  · rintro rfl
    cases digit

/-- The bounded readers' step: a nonempty run of digits, if its number is within the limit, and what they make of it. -/
theorem boundedDigits_eq_some_iff {α : Type} (f : Nat → α) {limit : Nat} {a : α} {cs : List Char} :
    (if isDigits cs && digitsValue cs ≤ limit then some (f (digitsValue cs)) else none) = some a ↔
      ∃ ds : Digits, ds.chars ≠ [] ∧ cs = ds.chars ∧ a = f ds.value ∧ ds.value ≤ limit := by
  rw [Option.ite_none_right_eq_some, Bool.and_eq_true, decide_eq_true_eq, Option.some.injEq]
  constructor
  · rintro ⟨⟨digits, small⟩, rfl⟩
    obtain ⟨ds, rfl, nonempty⟩ := exists_digits digits
    rw [digitsValue_eq] at small ⊢
    exact ⟨ds, nonempty, rfl, rfl, small⟩
  · rintro ⟨ds, nonempty, rfl, rfl, small⟩
    rw [digitsValue_eq]
    exact ⟨⟨(isDigits_iff ds).mpr nonempty, small⟩, rfl⟩

/-- An unsigned field reads an optional plus sign and digits, if their number is within the limit. -/
theorem unsigned?_eq_some_iff {limit n : Nat} {cs : List Char} : unsigned? limit cs = some n ↔
    ∃ (sign : Sign) (ds : Digits), sign ≠ .minus ∧ ds.chars ≠ [] ∧ cs = sign.chars ++ ds.chars ∧
      n = ds.value ∧ n ≤ limit := by
  constructor
  · intro read
    unfold unsigned? at read
    split at read
    · next rest =>
      obtain ⟨ds, nonempty, rfl, rfl, small⟩ := (boundedDigits_eq_some_iff id).mp read
      exact ⟨.plus, ds, by decide, nonempty, rfl, rfl, small⟩
    · obtain ⟨ds, nonempty, rfl, rfl, small⟩ := (boundedDigits_eq_some_iff id).mp read
      exact ⟨.none, ds, by decide, nonempty, rfl, rfl, small⟩
  · rintro ⟨sign, ds, unsigned, nonempty, rfl, rfl, small⟩
    have accepted := (boundedDigits_eq_some_iff id).mpr ⟨ds, nonempty, rfl, rfl, small⟩
    cases sign with
    | none =>
      rw [Sign.chars, List.nil_append]
      unfold unsigned?
      split
      · next spelled => exact absurd rfl (head_ne_of_digits spelled).1
      · exact accepted
    | plus => exact accepted
    | minus => exact absurd rfl unsigned

/-- Behind a minus sign there are digits, and one number more is within the bounds. -/
theorem signed?_minus {limit : Nat} {n : Int} {cs : List Char} : signed? limit ('-' :: cs) = some n ↔
    ∃ ds : Digits, ds.chars ≠ [] ∧ cs = ds.chars ∧ n = -ds.value ∧ ds.value ≤ limit + 1 :=
  boundedDigits_eq_some_iff fun m => -(m : Int)

/-- A text without a minus sign is read as an unsigned one. -/
theorem signed?_of_ne_minus {limit : Nat} {n : Int} {cs : List Char} (no_minus : ∀ rest, cs ≠ '-' :: rest) :
    signed? limit cs = some n ↔ ∃ (sign : Sign) (ds : Digits), sign ≠ .minus ∧ ds.chars ≠ [] ∧
      cs = sign.chars ++ ds.chars ∧ n = ds.value ∧ n ≤ limit := by
  unfold signed?
  split
  · exact absurd rfl (no_minus _)
  · rw [Option.map_eq_some_iff]
    constructor
    · rintro ⟨m, read, rfl⟩
      obtain ⟨sign, ds, positive, nonempty, spelled, rfl, small⟩ := unsigned?_eq_some_iff.mp read
      exact ⟨sign, ds, positive, nonempty, spelled, rfl, Int.ofNat_le.mpr small⟩
    · rintro ⟨sign, ds, positive, nonempty, spelled, rfl, small⟩
      have read := unsigned?_eq_some_iff.mpr ⟨sign, ds, positive, nonempty, spelled, rfl, Int.ofNat_le.mp small⟩
      exact ⟨ds.value, read, rfl⟩

/-- A signed field reads an optional sign and digits, if the signed number is within the bounds. -/
theorem signed?_eq_some_iff {limit : Nat} {n : Int} {cs : List Char} : signed? limit cs = some n ↔
    ∃ (sign : Sign) (ds : Digits), ds.chars ≠ [] ∧ cs = sign.chars ++ ds.chars ∧
      n = sign.apply ds.value ∧ -(limit + 1 : Int) ≤ n ∧ n ≤ limit := by
  constructor
  · intro read
    by_cases minus : ∃ rest, cs = '-' :: rest
    · obtain ⟨rest, rfl⟩ := minus
      obtain ⟨ds, nonempty, rfl, rfl, small⟩ := signed?_minus.mp read
      exact ⟨.minus, ds, nonempty, rfl, rfl, by omega, by omega⟩
    · obtain ⟨sign, ds, positive, nonempty, spelled, rfl, small⟩ :=
        (signed?_of_ne_minus fun rest same => minus ⟨rest, same⟩).mp read
      refine ⟨sign, ds, nonempty, spelled, ?_, by omega, small⟩
      rw [Sign.apply_eq, if_neg positive]
  · rintro ⟨sign, ds, nonempty, rfl, rfl, low, high⟩
    rw [Sign.apply_eq] at low high ⊢
    by_cases minus : sign = .minus
    · subst minus
      rw [if_pos rfl] at low ⊢
      exact signed?_minus.mpr ⟨ds, nonempty, rfl, rfl, by omega⟩
    · rw [if_neg minus] at high ⊢
      refine (signed?_of_ne_minus ?_).mpr ⟨sign, ds, minus, nonempty, rfl, rfl, high⟩
      intro rest spelled
      cases sign with
      | none => exact absurd rfl (head_ne_of_digits spelled).2
      | plus => cases spelled
      | minus => exact minus rfl

end ClusterCost.Text
