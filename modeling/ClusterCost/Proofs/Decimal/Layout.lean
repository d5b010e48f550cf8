import ClusterCost.Decimal.Layout
import ClusterCost.Proofs.Decimal.Shortest
import ClusterCost.Proofs.Json.Tokens

/-!
# Floats that are written

However a float is laid out, its text is one number token: with the shortest digits, the token denotes a number within
half a unit of the float's last binary place (`numeral_near`), and with a fixed number of decimal places, one within half
a unit of the last of these (`exists_token_of_fixed`).
-/
namespace ClusterCost.Decimal

open Json (Numeral)
open Text (placeValue)

/-! ## Digits and a point -/

/-- Digits that are cut in two have their point where they are cut. -/
theorem placeValue_split {ds : List Char} {p : Nat} (le : p ≤ ds.length) :
    (placeValue (ds.take p) + placeValue (ds.drop p) / 10 ^ (ds.drop p).length : ℚ) =
      placeValue ds * 10 ^ ((p : ℤ) - ds.length) := by
  have all := Text.placeValue_append (ds.take p) (ds.drop p)
  rw [List.take_append_drop] at all
  have length_eq : (p : ℤ) - ds.length = -((ds.drop p).length : ℤ) := by
    rw [List.length_drop]
    omega
  rw [all, length_eq, zpow_neg, zpow_natCast]
  push_cast
  field_simp

def pointedNumeral (negative keepPoint : Bool) (ds : List Char) (point : Int) : Numeral :=
  if point ≤ 0 then ⟨negative, ['0'], some (List.replicate (-point).toNat '0' ++ ds), none⟩
  else if ds.length ≤ point.toNat then
    ⟨negative, ds ++ List.replicate (point.toNat - ds.length) '0', if keepPoint then some ['0'] else none, none⟩
  else ⟨negative, ds.take point.toNat, some (ds.drop point.toNat), none⟩

def scientificNumeral (negative : Bool) (ds : List Char) (point : Int) : Numeral :=
  ⟨negative, ds.take 1, if (ds.drop 1).isEmpty then none else some (ds.drop 1),
    some (decide (point - 1 < 0), digitsOf (point - 1).natAbs)⟩

section Digits

variable {negative keepPoint : Bool} {ds : List Char} {point : Int}

theorem chars_pointedNumeral : (pointedNumeral negative keepPoint ds point).chars =
    (if negative then ['-'] else []) ++ pointed keepPoint ds point := by
  unfold pointedNumeral pointed
  split
  · simp [Numeral.chars, Numeral.unsignedChars, Numeral.fractionChars, Numeral.exponentChars]
  · split
    · cases keepPoint with
      | false | true => simp [Numeral.chars, Numeral.unsignedChars, Numeral.fractionChars, Numeral.exponentChars]
    · simp [Numeral.chars, Numeral.unsignedChars, Numeral.fractionChars, Numeral.exponentChars]

theorem chars_scientificNumeral : (scientificNumeral negative ds point).chars =
    (if negative then ['-'] else []) ++ scientific ds point := by
  unfold scientificNumeral scientific
  rcases ds with _ | ⟨first, _ | ⟨second, others⟩⟩
  · simp [Numeral.chars, Numeral.unsignedChars, Numeral.fractionChars, Numeral.exponentChars]
  · simp [Numeral.chars, Numeral.unsignedChars, Numeral.fractionChars, Numeral.exponentChars]
  · simp [Numeral.chars, Numeral.unsignedChars, Numeral.fractionChars, Numeral.exponentChars]

theorem negative_pointedNumeral : (pointedNumeral negative keepPoint ds point).negative = negative := by
  unfold pointedNumeral
  split
  · rfl
  · split <;> rfl

theorem magnitude_pointedNumeral :
    (pointedNumeral negative keepPoint ds point).magnitude = placeValue ds * 10 ^ (point - ds.length) := by
  unfold pointedNumeral
  split
  · next low =>
    have zeros := Text.placeValue_append (List.replicate (-point).toNat '0') ds
    rw [Text.placeValue_zeros, Nat.zero_mul, Nat.zero_add] at zeros
    have power_eq : point - ds.length = -((List.replicate (-point).toNat '0' ++ ds).length : ℤ) := by
      rw [List.length_append, List.length_replicate]
      omega
    have whole_eq : placeValue ['0'] = 0 := rfl
    rw [power_eq, zpow_neg, zpow_natCast, ← zeros, ← div_eq_mul_inv]
    simp only [Numeral.magnitude, Numeral.places, Numeral.written, Option.getD_some, whole_eq, Nat.cast_zero, zero_add,
      zpow_zero, mul_one]
  · next high =>
    split
    · next whole =>
      have zeros := Text.placeValue_append ds (List.replicate (point.toNat - ds.length) '0')
      rw [Text.placeValue_zeros, List.length_replicate, Nat.add_zero] at zeros
      have power_eq : point - ds.length = ((point.toNat - ds.length : Nat) : ℤ) := by omega
      rw [power_eq, zpow_natCast]
      cases keepPoint with
      | false | true =>
        simp [Numeral.magnitude, Numeral.places, Numeral.written, zeros, placeValue, Text.digitNumber]
    · next broken =>
      have split_value := placeValue_split (show point.toNat ≤ ds.length by omega)
      have power_eq : (point.toNat : ℤ) = point := by omega
      rw [power_eq] at split_value
      simp only [Numeral.magnitude, Numeral.places, Numeral.written, Option.getD_some, split_value, zpow_zero, mul_one]

theorem magnitude_scientificNumeral (nonempty : ds ≠ []) :
    (scientificNumeral negative ds point).magnitude = placeValue ds * 10 ^ (point - ds.length) := by
  have length_pos := List.length_pos_iff.mpr nonempty
  have split_value := placeValue_split (show 1 ≤ ds.length from length_pos)
  have places_eq : (scientificNumeral negative ds point).places = ds.drop 1 := by
    unfold scientificNumeral Numeral.places
    split
    · next empty => exact (List.isEmpty_iff.mp empty).symm
    · rfl
  have written_eq : (scientificNumeral negative ds point).written = point - 1 := by
    unfold scientificNumeral Numeral.written digitsOf
    simp only [Text.digitsValue_toDigits, decide_eq_true_eq]
    split <;> omega
  have power_eq : point - ds.length = ((1 : Nat) : ℤ) - ds.length + (point - 1) := by
    push_cast
    ring
  rw [Numeral.magnitude, places_eq, written_eq, power_eq, zpow_add₀ (by norm_num), ← mul_assoc, ← split_value]
  rfl

/-- Digits may stand before a point if they do not start with a zero, or are nothing but one before the point. -/
def Leading (ds : List Char) (point : Int) : Prop :=
  ds ≠ [] ∧ ds.head? ≠ some '0' ∨ ds = ['0'] ∧ point = 1

theorem Leading.ne_nil (leading : Leading ds point) : ds ≠ [] := by
  rcases leading with ⟨nonempty, -⟩ | ⟨zero, -⟩
  · exact nonempty
  · simp [zero]

/-- What starts as digits that do not start with a zero does not start with one either. -/
theorem leads_of_head {ds es : List Char} (nonempty : ds ≠ []) (no_zero : ds.head? ≠ some '0')
    (same : es.head? = ds.head?) : es ≠ [] ∧ es.head? ≠ some '0' := by
  refine ⟨?_, same ▸ no_zero⟩
  rintro rfl
  exact nonempty (List.head?_eq_none_iff.mp same.symm)

theorem isDigit_of_mem_append {ds es : List Char} (first : ∀ c ∈ ds, c.isDigit = true)
    (second : ∀ c ∈ es, c.isDigit = true) : ∀ c ∈ ds ++ es, c.isDigit = true :=
  List.forall_mem_append.mpr ⟨first, second⟩

theorem isDigit_of_mem_zeros (k : Nat) : ∀ c ∈ List.replicate k '0', c.isDigit = true :=
  fun _ member => List.eq_of_mem_replicate member ▸ rfl

theorem isToken_pointedNumeral (digits : ∀ c ∈ ds, c.isDigit = true) (leading : Leading ds point) :
    (pointedNumeral negative keepPoint ds point).IsToken := by
  unfold pointedNumeral
  split
  · refine { whole := by simp, places := isDigit_of_mem_append (isDigit_of_mem_zeros _) digits, leads := .inl rfl,
             fraction := ?_, exponent := nofun }
    rintro _ ⟨⟩
    exact List.append_ne_nil_of_right_ne_nil _ leading.ne_nil
  · next high =>
    split
    · refine { whole := isDigit_of_mem_append digits (isDigit_of_mem_zeros _), places := ?_, leads := ?_, fraction := ?_,
               exponent := nofun }
      · cases keepPoint with
        | false | true => simp [Numeral.places]
      · rcases leading with ⟨nonempty, no_zero⟩ | ⟨zero, one⟩
        · exact .inr (leads_of_head nonempty no_zero (List.head?_append_of_ne_nil ds nonempty))
        · rw [zero, one]
          exact .inl rfl
      · intro places some_places
        cases keepPoint with
        | false => cases some_places
        | true =>
          cases some_places
          simp
    · next broken =>
      refine { whole := fun c member => digits c (List.mem_of_mem_take member),
               places := fun c member => digits c (List.mem_of_mem_drop member), leads := ?_, fraction := ?_,
               exponent := nofun }
      · rcases leading with ⟨nonempty, no_zero⟩ | ⟨zero, one⟩
        · exact .inr (leads_of_head nonempty no_zero (List.head?_take.trans (if_neg (by omega))))
        · rw [zero, one] at broken
          exact absurd (le_refl 1) broken
      · rintro _ ⟨⟩
        rw [← List.length_pos_iff, List.length_drop]
        omega

theorem isToken_scientificNumeral (digits : ∀ c ∈ ds, c.isDigit = true) (leading : Leading ds point) :
    (scientificNumeral negative ds point).IsToken := by
  obtain ⟨first, others, rfl⟩ := List.exists_cons_of_ne_nil leading.ne_nil
  refine { whole := fun c member => digits c (List.mem_of_mem_take member), places := ?_, leads := ?_, fraction := ?_,
           exponent := ?_ }
  · unfold scientificNumeral Numeral.places
    cases others with
    | nil => simp
    | cons second others => exact fun c member => digits c (List.mem_of_mem_drop (i := 1) member)
  · rcases leading with ⟨-, no_zero⟩ | ⟨zero, -⟩
    · exact .inr ⟨List.cons_ne_nil _ _, no_zero⟩
    · rw [zero]
      exact .inl rfl
  · unfold scientificNumeral
    cases others with
    | nil => exact nofun
    | cons second others =>
      rintro _ ⟨⟩
      exact List.cons_ne_nil _ _
  · rintro _ _ ⟨⟩
    exact ⟨Nat.toDigits_ne_nil, Text.isDigit_of_mem_toDigits⟩

end Digits

/-! ## The shortest digits -/

theorem leading_shortest {b : Binary} (tie : Tie) (bounded : b.Bounded) :
    Leading (digitsOf (shortest tie b).digits) ((digitsOf (shortest tie b).digits).length + (shortest tie b).exponent) := by
  by_cases zero : b.mantissa = 0
  · right
    unfold shortest
    rw [if_pos zero]
    exact ⟨rfl, rfl⟩
  · refine .inl ⟨Nat.toDigits_ne_nil, Text.head_toDigits_ne (Nat.pos_of_ne_zero fun no_digits => ?_)⟩
    have near := shortest_near tie bounded
    have one_le : (1 : ℚ) ≤ b.mantissa := by exact_mod_cast Nat.one_le_iff_ne_zero.mpr zero
    have unit_pos := Binary64.two_zpow_pos b.exponent
    have unit_le : 2 ^ b.exponent ≤ b.magnitude := le_mul_of_one_le_left unit_pos.le one_le
    rw [Shortest.value, no_digits, Nat.cast_zero, zero_mul, zero_sub, abs_neg, abs_of_pos (unit_pos.trans_le unit_le)] at near
    linarith

def Layout.numeral (l : Layout) (b : Binary) : Numeral :=
  let s := shortest l.tie b
  let ds := digitsOf s.digits
  let point := ds.length + s.exponent
  if l.positional point then pointedNumeral b.negative l.keepPoint ds point else scientificNumeral b.negative ds point

section Shortest

variable (l : Layout) {b : Binary}

theorem chars_numeral (b : Binary) : (l.numeral b).chars = l.renderBinary b := by
  unfold Layout.numeral Layout.renderBinary
  dsimp only
  split
  · exact chars_pointedNumeral
  · exact chars_scientificNumeral

theorem negative_numeral (b : Binary) : (l.numeral b).negative = b.negative := by
  unfold Layout.numeral
  dsimp only
  split
  · exact negative_pointedNumeral
  · rfl

variable (bounded : b.Bounded)

include bounded

theorem isToken_numeral : (l.numeral b).IsToken := by
  unfold Layout.numeral
  dsimp only
  split
  · exact isToken_pointedNumeral Text.isDigit_of_mem_toDigits (leading_shortest l.tie bounded)
  · exact isToken_scientificNumeral Text.isDigit_of_mem_toDigits (leading_shortest l.tie bounded)

/-- What is written for a finite float denotes a number within half a unit of its last place. -/
theorem numeral_near : |(l.numeral b).magnitude - b.magnitude| ≤ 2 ^ b.exponent / 2 := by
  have value_eq : (l.numeral b).magnitude = (shortest l.tie b).value := by
    have nonempty := (leading_shortest l.tie bounded).ne_nil
    unfold Layout.numeral
    dsimp only
    split
    · rw [magnitude_pointedNumeral, add_sub_cancel_left, digitsOf, Text.placeValue_toDigits, Shortest.value]
    · rw [magnitude_scientificNumeral nonempty, add_sub_cancel_left, digitsOf, Text.placeValue_toDigits, Shortest.value]
  rw [value_eq]
  exact shortest_near l.tie bounded

end Shortest

/-! ## A fixed number of places -/

theorem divToEven_near (n : Nat) {d : Nat} (pos : 0 < d) : |(divToEven n d : ℚ) - n / d| ≤ 1 / 2 := by
  have pos' : (0 : ℚ) < d := Nat.cast_pos.mpr pos
  have parts := Nat.div_add_mod n d
  have rest_lt := Nat.mod_lt n pos
  have next_eq : d * (n / d + 1) = d * (n / d) + d := Nat.mul_succ _ _
  have bounds : 2 * (d * divToEven n d) ≤ 2 * n + d ∧ 2 * n ≤ 2 * (d * divToEven n d) + d := by
    unfold divToEven
    dsimp only
    split
    · omega
    · split
      · rw [next_eq]
        omega
      · rcases Nat.mod_two_eq_zero_or_one (n / d) with even | odd
        · rw [even, Nat.add_zero]
          omega
        · rw [odd, next_eq]
          omega
  have high : (2 * (d * divToEven n d) : ℚ) ≤ 2 * n + d := by exact_mod_cast bounds.1
  have low : (2 * n : ℚ) ≤ 2 * (d * divToEven n d) + d := by exact_mod_cast bounds.2
  rw [abs_le, neg_le_sub_iff_le_add, sub_le_iff_le_add, div_le_iff₀ pos', ← sub_le_iff_le_add', le_div_iff₀ pos']
  constructor <;> linarith

theorem Binary.numerator_div_divisor (b : Binary) : (b.numerator / b.divisor : ℚ) = b.magnitude := by
  have numerator_eq : (b.numerator : ℚ) = b.mantissa * 2 ^ b.exponent.toNat := by
    change ((b.mantissa * 2 ^ b.exponent.toNat : Nat) : ℚ) = _
    push_cast
    rfl
  have divisor_eq : (b.divisor : ℚ) = 2 ^ (-b.exponent).toNat := by
    change ((2 ^ (-b.exponent).toNat : Nat) : ℚ) = _
    push_cast
    rfl
  rw [numerator_eq, divisor_eq, mul_div_assoc, ← zpow_eq_div 2 two_ne_zero]
  rfl

/-- Digits with a number of places, and with zeros in front where there are too few of them. -/
def paddedDigits (places n : Nat) : List Char :=
  List.replicate (places + 1 - (digitsOf n).length) '0' ++ digitsOf n

def fixedNumeral (negative : Bool) (places n : Nat) : Numeral :=
  ⟨negative, (paddedDigits places n).take ((paddedDigits places n).length - places),
    some ((paddedDigits places n).drop ((paddedDigits places n).length - places)), none⟩

section Fixed

variable {places n : Nat}

theorem isDigit_of_mem_paddedDigits : ∀ c ∈ paddedDigits places n, c.isDigit = true :=
  isDigit_of_mem_append (isDigit_of_mem_zeros _) Text.isDigit_of_mem_toDigits

theorem lt_length_paddedDigits (places n : Nat) : places < (paddedDigits places n).length := by
  rw [paddedDigits, List.length_append, List.length_replicate]
  omega

theorem length_places_fixedNumeral (negative : Bool) : (fixedNumeral negative places n).places.length = places := by
  have enough := lt_length_paddedDigits places n
  change (List.drop _ _).length = places
  rw [List.length_drop]
  omega

theorem magnitude_fixedNumeral (negative : Bool) : (fixedNumeral negative places n).magnitude = n / 10 ^ places := by
  have enough := lt_length_paddedDigits places n
  have split_value := placeValue_split (Nat.sub_le (paddedDigits places n).length places)
  have zeros := Text.placeValue_append (List.replicate (places + 1 - (digitsOf n).length) '0') (digitsOf n)
  rw [Text.placeValue_zeros, Nat.zero_mul, Nat.zero_add, digitsOf, Text.placeValue_toDigits] at zeros
  have value_eq : placeValue (paddedDigits places n) = n := zeros
  have power_eq : (((paddedDigits places n).length - places : Nat) : ℤ) - (paddedDigits places n).length = -(places : ℤ) := by
    omega
  rw [value_eq, power_eq, zpow_neg, zpow_natCast, ← div_eq_mul_inv] at split_value
  rw [← split_value]
  simp only [fixedNumeral, Numeral.magnitude, Numeral.places, Numeral.written, Option.getD_some, zpow_zero, mul_one]

theorem isToken_fixedNumeral (negative : Bool) (some_places : 0 < places) : (fixedNumeral negative places n).IsToken where
  whole c member := isDigit_of_mem_paddedDigits c (List.mem_of_mem_take member)
  places c member := isDigit_of_mem_paddedDigits c (List.mem_of_mem_drop member)
  leads := by
    have length_pos : 0 < (digitsOf n).length := Nat.length_toDigits_pos
    rcases Nat.lt_or_ge places (digitsOf n).length with long | short
    -- Only digits that are more than the places reach in front of the point, and zero has one digit.
    · right
      have all : paddedDigits places n = digitsOf n := by
        rw [paddedDigits, Nat.sub_eq_zero_of_le long, List.replicate_zero, List.nil_append]
      have pos : 0 < n := by
        rw [Nat.pos_iff_ne_zero]
        rintro rfl
        have one_digit : (digitsOf 0).length = 1 := rfl
        omega
      have inside : (digitsOf n).length - places ≠ 0 := by omega
      have same : (fixedNumeral negative places n).whole.head? = (digitsOf n).head? := by
        change (List.take ((paddedDigits places n).length - places) (paddedDigits places n)).head? = _
        rw [all, List.head?_take, if_neg inside]
      exact leads_of_head Nat.toDigits_ne_nil (Text.head_toDigits_ne pos) same
    · left
      have length_eq : (paddedDigits places n).length - places = 1 := by
        rw [paddedDigits, List.length_append, List.length_replicate]
        omega
      have zeros : places + 1 - (digitsOf n).length = (places - (digitsOf n).length) + 1 := by omega
      change List.take ((paddedDigits places n).length - places) (paddedDigits places n) = _
      rw [length_eq, paddedDigits, zeros, List.replicate_succ]
      rfl
  fraction := by
    rintro _ ⟨⟩
    have places_eq : (fixedNumeral negative places n).places.length = places := length_places_fixedNumeral negative
    exact List.length_pos_iff.mp (places_eq.symm ▸ some_places)
  exponent := nofun

end Fixed

/-- A finite float is written with a fixed number of places as a token, which denotes a number next to it. -/
theorem exists_token_of_fixed {places : Nat} (some_places : 0 < places) {x : Float} {b : Binary}
    (finite : Binary.ofFloat? x = some b) : ∃ n : Numeral, (fixed places x).toList = n.chars ∧ n.IsToken ∧
      n.negative = b.negative ∧ n.exponent = none ∧ n.places.length = places ∧
        |n.magnitude - b.magnitude| ≤ 1 / (2 * 10 ^ places) := by
  have power_pos : (0 : ℚ) < 10 ^ places := by positivity
  have near := divToEven_near (b.numerator * 10 ^ places) b.divisor_pos
  refine ⟨fixedNumeral b.negative places (divToEven (b.numerator * 10 ^ places) b.divisor), ?_,
    isToken_fixedNumeral b.negative some_places, rfl, rfl, length_places_fixedNumeral _, ?_⟩
  · unfold fixed
    rw [finite]
    simp [Numeral.chars, Numeral.unsignedChars, Numeral.fractionChars, Numeral.exponentChars, fixedNumeral, paddedDigits]
  · have apart (d : ℚ) : d / 10 ^ places - b.magnitude = (d - b.magnitude * 10 ^ places) / 10 ^ places := by
      rw [sub_div, mul_div_cancel_right₀ _ power_pos.ne']
    have part_eq : (1 / 2 : ℚ) = 1 / (2 * 10 ^ places) * 10 ^ places := by field_simp
    push_cast at near
    rw [mul_div_right_comm, b.numerator_div_divisor, part_eq] at near
    rw [magnitude_fixedNumeral, apart, abs_div, abs_of_pos power_pos, div_le_iff₀ power_pos]
    exact near

end ClusterCost.Decimal
