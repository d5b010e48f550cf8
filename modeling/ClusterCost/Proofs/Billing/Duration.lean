import ClusterCost.Billing.Duration
import ClusterCost.Proofs.Instant
import ClusterCost.Proofs.Text.Digits
import ClusterCost.Proofs.Text.Trim

/-!
# Durations and their windows

A duration text is an optional plus sign, digits, and the letter of a unit or none. `DurationSpelling` holds these parts,
and `DurationSpelling.seconds` is the exact product of the number and the unit. The reader finds the parts of a text again
(`splitUnit_chars`) and accepts no other text (`secondsOf?_eq_some_iff`).

Its product stops at the greatest unsigned number, which is far beyond the clock. So a product that was stopped there
leaves the clock with its window, and every window that is made has the exact length (`ofDuration_exact`).
-/
namespace ClusterCost.Billing

open Text (Digits Sign)

/-- What may follow the number of a duration. -/
inductive DurationUnit where
  | none
  | second
  | minute
  | hour
  deriving DecidableEq, Repr

namespace DurationUnit

def chars : DurationUnit → List Char
  | none => []
  | second => ['s']
  | minute => ['m']
  | hour => ['h']

def scale : DurationUnit → Nat
  | none => 1
  | second => 1
  | minute => 60
  | hour => 3600

theorem isBlank_of_mem (u : DurationUnit) : ∀ c ∈ u.chars, Text.isBlank c = false := by
  intro c member
  cases u with
  | none => cases member
  | second | minute | hour =>
    rw [List.mem_singleton.mp member]
    decide

end DurationUnit

/-- The parts of a duration text. -/
structure DurationSpelling where
  sign : Sign
  digits : Digits
  unit : DurationUnit
  sign_ne : sign ≠ .minus
  nonempty : digits.chars ≠ []

namespace DurationSpelling

def number (p : DurationSpelling) : List Char :=
  p.sign.chars ++ p.digits.chars

def chars (p : DurationSpelling) : List Char :=
  p.number ++ p.unit.chars

def seconds (p : DurationSpelling) : Nat :=
  p.digits.value * p.unit.scale

/-- A text spells a duration where blanks surround the spelling. -/
def SpelledBy (p : DurationSpelling) (text : String) : Prop :=
  ∃ before after, Text.Blanks before ∧ Text.Blanks after ∧ text.toList = before ++ p.chars ++ after

theorem isBlank_of_mem (p : DurationSpelling) : ∀ c ∈ p.chars, Text.isBlank c = false := by
  intro c member
  unfold chars number at member
  rw [List.mem_append, List.mem_append] at member
  rcases member with (of_sign | of_digits) | of_unit
  · exact p.sign.isBlank_of_mem c of_sign
  · exact Text.isBlank_of_isDigit (p.digits.isDigit c of_digits)
  · exact p.unit.isBlank_of_mem c of_unit

theorem chars_ne_nil (p : DurationSpelling) : p.chars ≠ [] := by
  unfold chars number
  simp [p.nonempty]

theorem spelledBy_iff {p : DurationSpelling} {text : String} :
    p.SpelledBy text ↔ Text.trim text.toList = p.chars :=
  (Text.trim_eq_iff p.isBlank_of_mem p.chars_ne_nil).symm

end DurationSpelling

/-! ## Reading a duration -/

theorem unitSeconds?_of_isDigit {c : Char} (digit : c.isDigit = true) : unitSeconds? c = none := by
  unfold unitSeconds?
  split
  · cases digit
  · cases digit
  · cases digit
  · rfl

theorem exists_unit_of_unitSeconds? {c : Char} {unit : Nat} (letter : unitSeconds? c = some unit) :
    ∃ u : DurationUnit, u.chars = [c] ∧ u.scale = unit := by
  unfold unitSeconds? at letter
  split at letter
  · cases letter
    exact ⟨.second, rfl, rfl⟩
  · cases letter
    exact ⟨.minute, rfl, rfl⟩
  · cases letter
    exact ⟨.hour, rfl, rfl⟩
  · cases letter

/-- The last character of a number is a digit, which no unit has for its letter. -/
theorem splitUnit_number (p : DurationSpelling) : splitUnit p.number = (p.number, 1) := by
  have last : p.number.getLast? = some (p.digits.chars.getLast p.nonempty) := by
    unfold DurationSpelling.number
    rw [List.getLast?_append, List.getLast?_eq_some_getLast p.nonempty, Option.some_or]
  have digit : (p.digits.chars.getLast p.nonempty).isDigit = true :=
    p.digits.isDigit _ (List.getLast_mem p.nonempty)
  unfold splitUnit
  rw [last, Option.bind_some, unitSeconds?_of_isDigit digit]

theorem splitUnit_letter {cs : List Char} {c : Char} {unit : Nat} (letter : unitSeconds? c = some unit) :
    splitUnit (cs ++ [c]) = (cs, unit) := by
  unfold splitUnit
  rw [List.getLast?_concat, Option.bind_some, letter, List.dropLast_concat]

theorem splitUnit_chars (p : DurationSpelling) : splitUnit p.chars = (p.number, p.unit.scale) := by
  unfold DurationSpelling.chars
  cases p.unit with
  | none =>
    rw [DurationUnit.chars, List.append_nil]
    exact splitUnit_number p
  | second => exact splitUnit_letter rfl
  | minute => exact splitUnit_letter rfl
  | hour => exact splitUnit_letter rfl

/-- Whatever a text is, its last part is the unit that was found, or nothing. -/
theorem exists_unit_of_splitUnit {cs number : List Char} {unit : Nat} (found : splitUnit cs = (number, unit)) :
    ∃ u : DurationUnit, cs = number ++ u.chars ∧ unit = u.scale := by
  unfold splitUnit at found
  split at found
  · next _ ending =>
    cases found
    obtain ⟨c, last, letter⟩ := Option.bind_eq_some_iff.mp ending
    obtain ⟨before, rfl⟩ := List.getLast?_eq_some_iff.mp last
    obtain ⟨u, chars_eq, scale_eq⟩ := exists_unit_of_unitSeconds? letter
    exact ⟨u, by rw [chars_eq, List.dropLast_concat], scale_eq.symm⟩
  · cases found
    exact ⟨.none, by rw [DurationUnit.chars, List.append_nil], rfl⟩

/-- The reader accepts the spellings whose number is in the range, and stops their product at its end. -/
theorem secondsOf?_eq_some_iff {cs : List Char} {n : Nat} : secondsOf? cs = some n ↔
    ∃ p : DurationSpelling, cs = p.chars ∧ p.digits.value ≤ maxSeconds ∧ n = min p.seconds maxSeconds := by
  constructor
  · intro read
    unfold secondsOf? at read
    obtain ⟨value, number_read, rfl⟩ := Option.map_eq_some_iff.mp read
    obtain ⟨sign, digits, sign_ne, nonempty, number_eq, rfl, small⟩ := Text.unsigned?_eq_some_iff.mp number_read
    obtain ⟨u, cs_eq, unit_eq⟩ := @exists_unit_of_splitUnit cs _ _ rfl
    refine ⟨⟨sign, digits, u, sign_ne, nonempty⟩, ?_, small, ?_⟩
    · rw [number_eq] at cs_eq
      exact cs_eq
    · rw [unit_eq]
      rfl
  · rintro ⟨p, rfl, small, rfl⟩
    have number_read : Text.unsigned? maxSeconds p.number = some p.digits.value :=
      Text.unsigned?_eq_some_iff.mpr ⟨p.sign, p.digits, p.sign_ne, p.nonempty, rfl, rfl, small⟩
    unfold secondsOf?
    rw [splitUnit_chars]
    dsimp only
    rw [number_read]
    rfl

theorem parseDuration_eq_ok_iff {text : String} {n : Nat} : parseDuration text = .ok n ↔
    ∃ p : DurationSpelling, p.SpelledBy text ∧ p.digits.value ≤ maxSeconds ∧ n = min p.seconds maxSeconds := by
  have read_iff : parseDuration text = .ok n ↔ secondsOf? (Text.trim text.toList) = some n := by
    unfold parseDuration
    dsimp only
    cases secondsOf? (Text.trim text.toList) with
    | none => simp
    | some seconds => simp
  rw [read_iff, secondsOf?_eq_some_iff]
  simp only [DurationSpelling.spelledBy_iff]

theorem parseDuration_of_not_ok {text : String} (refused : ∀ n, parseDuration text ≠ .ok n) :
    parseDuration text = .error (.malformed (String.ofList (Text.trim text.toList))) := by
  unfold parseDuration at refused ⊢
  dsimp only at refused ⊢
  cases read : secondsOf? (Text.trim text.toList) with
  | none => rfl
  | some seconds =>
    rw [read] at refused
    exact absurd rfl (refused seconds)

/-! ## The window of a duration -/

/-- The clock reaches a number of seconds up to its last second. -/
theorem exists_finish_iff {n : Nat} : (∃ finish, Instant.epoch.addSeconds? n = some finish) ↔ n ≤ 2 ^ 63 - 1 := by
  rw [Instant.exists_addSeconds?_iff]
  change 0 + (n : Int) ≤ 9223372036854775807 ↔ n ≤ 9223372036854775807
  omega

/-- The window that ends a number of seconds after the epoch is the one from the epoch on with that length. -/
theorem addSeconds?_eq_some_finish_iff {w : Window} {n : Nat} :
    (∃ finish, Instant.epoch.addSeconds? n = some finish ∧ ⟨Instant.epoch, finish⟩ = w) ↔
      w.start = Instant.epoch ∧ w.nanos = n * Instant.nanosPerSecond := by
  obtain ⟨start, finish⟩ := w
  unfold Window.nanos
  simp only [Window.mk.injEq]
  constructor
  · rintro ⟨finish, place, rfl, rfl⟩
    rw [Instant.addSeconds?_eq_some_iff] at place
    exact ⟨rfl, by omega⟩
  · rintro ⟨rfl, length_eq⟩
    exact ⟨finish, Instant.addSeconds?_eq_some_iff.mpr (by omega), rfl, rfl⟩

theorem Window.ofDuration_of_ok {text : String} {n : Nat} (parsed : parseDuration text = .ok n) :
    Window.ofDuration text = match Instant.epoch.addSeconds? n with
      | some finish => .ok ⟨Instant.epoch, finish⟩
      | none => .error (.beyondClock text) := by
  unfold Window.ofDuration
  rw [parsed]
  rfl

theorem Window.ofDuration_of_error {text : String} {e : InvalidDuration} (refused : parseDuration text = .error e) :
    Window.ofDuration text = .error e := by
  unfold Window.ofDuration
  rw [refused]
  rfl

theorem Window.ofDuration_eq_ok_iff {text : String} {w : Window} : Window.ofDuration text = .ok w ↔
    ∃ n, parseDuration text = .ok n ∧ w.start = Instant.epoch ∧ w.nanos = n * Instant.nanosPerSecond := by
  simp only [← addSeconds?_eq_some_finish_iff]
  cases parsed : parseDuration text with
  | error e => simp [Window.ofDuration_of_error parsed]
  | ok n =>
    rw [Window.ofDuration_of_ok parsed]
    cases reached : Instant.epoch.addSeconds? n with
    | none => simp [reached]
    | some finish => simp [reached]

theorem Window.ofDuration_of_beyond {text : String} {n : Nat} (parsed : parseDuration text = .ok n)
    (beyond : 2 ^ 63 - 1 < n) : Window.ofDuration text = .error (.beyondClock text) := by
  rw [Window.ofDuration_of_ok parsed]
  cases reached : Instant.epoch.addSeconds? n with
  | none => rfl
  | some finish => exact absurd (exists_finish_iff.mp ⟨finish, reached⟩) (Nat.not_le.mpr beyond)

/-- Durations and their windows. A text is read as a duration exactly if it is, between blanks, an optional plus sign,
digits with a number of 64 bits, and the letter of a unit or none; the product of both stops at the greatest number of 64
bits. It has a window exactly if moreover the exact product is within the clock, and then the window starts at the epoch
and has exactly that length. Every other text is refused: as no duration, or as one whose exact product is too long. -/
theorem ofDuration_exact (text : String) :
    let Reads (p : DurationSpelling) : Prop := p.SpelledBy text ∧ p.digits.value ≤ 2 ^ 64 - 1
    let product (p : DurationSpelling) : Nat := p.digits.value * p.unit.scale
    (∀ n, parseDuration text = .ok n ↔ ∃ p, Reads p ∧ n = min (product p) (2 ^ 64 - 1)) ∧
    (∀ w, Window.ofDuration text = .ok w ↔ ∃ p, Reads p ∧ product p ≤ 2 ^ 63 - 1 ∧
      w.start = Instant.epoch ∧ w.nanos = product p * 1000000000) ∧
    -- What is refused.
    ((¬∃ p, Reads p) →
      parseDuration text = .error (.malformed (String.ofList (Text.trim text.toList))) ∧
      Window.ofDuration text = .error (.malformed (String.ofList (Text.trim text.toList)))) ∧
    (∀ p, Reads p → 2 ^ 63 - 1 < product p → Window.ofDuration text = .error (.beyondClock text)) := by
  intro Reads product
  have parsed_iff (n : Nat) : parseDuration text = .ok n ↔ ∃ p, Reads p ∧ n = min (product p) (2 ^ 64 - 1) := by
    rw [parseDuration_eq_ok_iff]
    simp only [Reads, and_assoc]
    rfl
  refine ⟨parsed_iff, ?_, ?_, ?_⟩
  · intro w
    rw [Window.ofDuration_eq_ok_iff]
    constructor
    · rintro ⟨n, parsed, start_eq, nanos_eq⟩
      obtain ⟨p, reads, rfl⟩ := (parsed_iff n).mp parsed
      have within : min (product p) (2 ^ 64 - 1) ≤ 2 ^ 63 - 1 := by
        obtain ⟨finish, reached, -⟩ := addSeconds?_eq_some_finish_iff.mpr ⟨start_eq, nanos_eq⟩
        exact exists_finish_iff.mp ⟨finish, reached⟩
      -- What was stopped at the greatest number is beyond the clock, so this product was not.
      have unstopped : min (product p) (2 ^ 64 - 1) = product p := by omega
      rw [unstopped] at within nanos_eq
      exact ⟨p, reads, within, start_eq, nanos_eq⟩
    · rintro ⟨p, reads, within, start_eq, nanos_eq⟩
      have unstopped : product p = min (product p) (2 ^ 64 - 1) := by omega
      exact ⟨product p, (parsed_iff _).mpr ⟨p, reads, unstopped⟩, start_eq, nanos_eq⟩
  · intro unread
    have refused : parseDuration text = .error (.malformed (String.ofList (Text.trim text.toList))) := by
      apply parseDuration_of_not_ok
      intro n parsed
      obtain ⟨p, reads, -⟩ := (parsed_iff n).mp parsed
      exact unread ⟨p, reads⟩
    exact ⟨refused, Window.ofDuration_of_error refused⟩
  · intro p reads beyond
    exact Window.ofDuration_of_beyond ((parsed_iff _).mpr ⟨p, reads, rfl⟩) (by omega)

end ClusterCost.Billing
