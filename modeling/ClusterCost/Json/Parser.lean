import ClusterCost.Json.Basic
import ClusterCost.Text.Hexadecimal

/-!
# Reading JSON texts

`Json.ofChars` reads the first value of a text as a tree, down to the place where the text stops being JSON. Every
step either takes a character or closes a bracket that took one, so twice the length of the text is fuel enough.
-/
namespace ClusterCost.Json

/-- The characters between tokens. -/
def isGap (c : Char) : Bool :=
  c == ' ' || c == '\n' || c == '\t' || c == '\r'

/-- A text from its first token on. -/
def skipGaps (cs : List Char) : List Char :=
  cs.dropWhile isGap

/-- The character of a one-letter escape. -/
def escaped? : Char → Option Char
  | '"' => some '"'
  | '\\' => some '\\'
  | '/' => some '/'
  | 'b' => some '\x08'
  | 'f' => some '\x0c'
  | 'n' => some '\n'
  | 'r' => some '\r'
  | 't' => some '\t'
  | _ => none

def isHighSurrogate (n : Nat) : Bool := 0xD800 ≤ n && n ≤ 0xDBFF

def isLowSurrogate (n : Nat) : Bool := 0xDC00 ≤ n && n ≤ 0xDFFF

def joinSurrogates (high low : Nat) : Char :=
  Char.ofNat (0x10000 + 0x400 * (high - 0xD800) + (low - 0xDC00))

/-- What a string token is made of: characters, and halves of surrogate pairs that escapes wrote. -/
inductive Piece where
  | char (c : Char)
  | half (unit : Nat)
  deriving DecidableEq, Repr

/-- The piece that an escaped code unit is. -/
def Piece.ofUnit (n : Nat) : Piece :=
  if isHighSurrogate n || isLowSurrogate n then .half n else .char (Char.ofNat n)

/-- The pieces of a string token after its opening quote, and the text after its closing quote. -/
def stringPieces? : List Char → Option (List Piece × List Char)
  | [] => none
  | '"' :: rest => some ([], rest)
  | '\\' :: 'u' :: a :: b :: c :: d :: rest => do
    let unit ← Text.hexRun? [a, b, c, d]
    let (pieces, after) ← stringPieces? rest
    some (.ofUnit unit :: pieces, after)
  | '\\' :: c :: rest => do
    let char ← escaped? c
    let (pieces, after) ← stringPieces? rest
    some (.char char :: pieces, after)
  | c :: rest =>
    if c < ' ' then none
    else do
      let (pieces, after) ← stringPieces? rest
      some (.char c :: pieces, after)

/-- The characters of a string token, if no half of a surrogate pair stands alone. -/
def joinPieces? : List Piece → Option (List Char)
  | [] => some []
  | .char c :: pieces => (joinPieces? pieces).map (c :: ·)
  | .half high :: .half low :: pieces =>
    if isHighSurrogate high && isLowSurrogate low then (joinPieces? pieces).map (joinSurrogates high low :: ·)
    else none
  | .half _ :: _ => none

/-- The text of a string token after its opening quote, if it names one, and what follows its closing quote. -/
def stringTail? (cs : List Char) : Option (Option String × List Char) :=
  (stringPieces? cs).map fun (pieces, after) => ((joinPieces? pieces).map String.ofList, after)

def someDigits? (cs : List Char) : Option (List Char × List Char) :=
  let digits := cs.takeWhile Char.isDigit
  if digits.isEmpty then none else some (digits, cs.dropWhile Char.isDigit)

/-- The digits before the point: a single zero, or digits that do not start with one. -/
def wholeDigits? : List Char → Option (List Char × List Char)
  | '0' :: rest =>
    match rest with
    | c :: _ => if c.isDigit then none else some (['0'], rest)
    | [] => some (['0'], [])
  | cs => someDigits? cs

/-- The digits after a point, if there is a point. -/
def fractionDigits? : List Char → Option (Option (List Char) × List Char)
  | '.' :: rest => (someDigits? rest).map fun (digits, after) => (some digits, after)
  | cs => some (none, cs)

/-- The sign and the digits of an exponent, if there is one. -/
def exponentDigits? (cs : List Char) : Option (Option (Bool × List Char) × List Char) :=
  let signed (rest : List Char) : Option (Option (Bool × List Char) × List Char) :=
    match rest with
    | '-' :: digits => (someDigits? digits).map fun (ds, after) => (some (true, ds), after)
    | '+' :: digits => (someDigits? digits).map fun (ds, after) => (some (false, ds), after)
    | digits => (someDigits? digits).map fun (ds, after) => (some (false, ds), after)
  match cs with
  | 'e' :: rest => signed rest
  | 'E' :: rest => signed rest
  | cs => some (none, cs)

def numeral? (cs : List Char) : Option (Numeral × List Char) := do
  let (negative, unsigned) := match cs with
    | '-' :: rest => (true, rest)
    | other => (false, other)
  let (whole, rest) ← wholeDigits? unsigned
  let (fraction, rest) ← fractionDigits? rest
  let (exponent, rest) ← exponentDigits? rest
  some ({ negative, whole, fraction, exponent }, rest)

/-- A tree that was read and the text after it; there is none after a place where the text stopped being JSON. -/
abbrev Reading := Json × Option (List Char)

def readString (cs : List Char) : Reading :=
  match stringTail? cs with
  | some (some text, after) => (.string text, some after)
  | some (none, after) => (.unreadable, some after)
  | none => (.broken, none)

def readNumber (cs : List Char) : Reading :=
  match numeral? cs with
  | some (numeral, after) =>
    match numeral.toNumber? with
    | some n => (.number n, some after)
    | none => (.unreadable, some after)
  | none => (.broken, none)

mutual

def readValue : Nat → List Char → Reading
  | 0, _ => (.broken, none)
  | fuel + 1, cs =>
    match skipGaps cs with
    | '"' :: rest => readString rest
    | '[' :: rest =>
      match skipGaps rest with
      | ']' :: after => (.array [], some after)
      | _ =>
        let (items, after) := readItems fuel rest
        (.array items, after)
    | '\x7b' :: rest =>
      match skipGaps rest with
      | '\x7d' :: after => (.object [], some after)
      | _ =>
        let (members, after) := readMembers fuel rest
        (.object members, after)
    | 't' :: 'r' :: 'u' :: 'e' :: rest => (.bool true, some rest)
    | 'f' :: 'a' :: 'l' :: 's' :: 'e' :: rest => (.bool false, some rest)
    | 'n' :: 'u' :: 'l' :: 'l' :: rest => (.null, some rest)
    | other => readNumber other

/-- The items of an array, of which at least one is to come, and the text after the closing bracket. -/
def readItems : Nat → List Char → List Json × Option (List Char)
  | 0, _ => ([.broken], none)
  | fuel + 1, cs =>
    match readValue fuel cs with
    | (item, none) => ([item], none)
    | (item, some rest) =>
      match skipGaps rest with
      | ']' :: after => ([item], some after)
      | ',' :: more =>
        let (items, after) := readItems fuel more
        (item :: items, after)
      | _ => ([item, .broken], none)

/-- The members of an object, of which at least one is to come, and the text after the closing brace. -/
def readMembers : Nat → List Char → List (Option String × Json) × Option (List Char)
  | 0, _ => ([(none, .broken)], none)
  | fuel + 1, cs =>
    match skipGaps cs with
    | '"' :: rest =>
      match stringTail? rest with
      | none => ([(none, .broken)], none)
      | some (name, rest) =>
        match skipGaps rest with
        | ':' :: rest =>
          match readValue fuel rest with
          | (value, none) => ([(name, value)], none)
          | (value, some rest) =>
            match skipGaps rest with
            | '\x7d' :: after => ([(name, value)], some after)
            | ',' :: more =>
              let (members, after) := readMembers fuel more
              ((name, value) :: members, after)
            | _ => ([(name, value), (none, .broken)], none)
        | _ => ([(name, .broken)], none)
    | _ => ([(none, .broken)], none)

end

/-- A text as a document: its first value, and whether nothing but gaps follows it. -/
structure Document where
  root : Json
  ended : Bool
  deriving Repr

def Document.parse (s : String) : Document :=
  let cs := s.toList
  match readValue (2 * cs.length + 2) cs with
  | (root, some rest) => ⟨root, (skipGaps rest).isEmpty⟩
  | (root, none) => ⟨root, false⟩

end ClusterCost.Json
