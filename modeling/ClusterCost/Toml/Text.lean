import ClusterCost.Text.Hexadecimal
import ClusterCost.Toml.Basic

/-!
# Reading TOML strings

A string stands between single or double quotes, one of them on one line or three of them over several. Between single
quotes every character stands for itself; between double quotes a backslash starts an escape. The two long forms
drop a line break right after the opening quotes, and up to two quotes before the closing ones belong to the text.
-/
namespace ClusterCost.Toml

/-- A text that was read, and what follows its closing quotes. -/
abbrev TextReading := List Char × List Char

def TextReading.push (c : Char) (r : TextReading) : TextReading :=
  (c :: r.1, r.2)

def escaped? : Char → Option Char
  | 'b' => some '\x08'
  | 'f' => some '\x0c'
  | 'n' => some '\n'
  | 'r' => some '\r'
  | 't' => some '\t'
  | '\\' => some '\\'
  | '"' => some '"'
  | _ => none

/-- The character whose number hexadecimal digits write. -/
def numbered? (digits : List Char) : Option Char := do
  let n ← Text.hexRun? digits
  if n.isValidChar then some (Char.ofNat n) else none

def basic? : List Char → Option TextReading
  | [] => none
  | '"' :: rest => some ([], rest)
  | '\\' :: 'u' :: a :: b :: c :: d :: rest => do
    let char ← numbered? [a, b, c, d]
    let reading ← basic? rest
    some (reading.push char)
  | '\\' :: 'U' :: a :: b :: c :: d :: e :: f :: g :: h :: rest => do
    let char ← numbered? [a, b, c, d, e, f, g, h]
    let reading ← basic? rest
    some (reading.push char)
  | '\\' :: c :: rest => do
    let char ← escaped? c
    let reading ← basic? rest
    some (reading.push char)
  | c :: rest =>
    if isPlain c then (basic? rest).map (·.push c) else none

def literal? (cs : List Char) : Option TextReading :=
  let isInner (c : Char) : Bool := isPlain c && c != '\''
  match cs.dropWhile isInner with
  | '\'' :: rest => some (cs.takeWhile isInner, rest)
  | _ => none

/-- The end of a text between three quotes, after three of the run that closes it. -/
def closing (quote : Char) : List Char → TextReading
  | a :: b :: rest =>
    if a == quote && b == quote then ([quote, quote], rest)
    else if a == quote then ([quote], b :: rest)
    else ([], a :: b :: rest)
  | [a] => if a == quote then ([quote], []) else ([], [a])
  | [] => ([], [])

/-- Whether a text starts with a line break, blanks before it apart. -/
def startsLine (cs : List Char) : Bool :=
  (afterBreak? (skipGaps cs)).isSome

/-- The text between three double quotes, after the opening ones. A backslash at the end of a line drops the line break
and all blanks and line breaks after it; `joining` holds while they are dropped. -/
def longBasic? (joining : Bool) : List Char → Option TextReading
  | [] => none
  | '"' :: '"' :: '"' :: rest => some (closing '"' rest)
  | '\r' :: '\n' :: rest =>
    if joining then longBasic? true rest else (longBasic? false rest).map (·.push '\n')
  | '\n' :: rest =>
    if joining then longBasic? true rest else (longBasic? false rest).map (·.push '\n')
  | '\\' :: 'u' :: a :: b :: c :: d :: rest => do
    let char ← numbered? [a, b, c, d]
    let reading ← longBasic? false rest
    some (reading.push char)
  | '\\' :: 'U' :: a :: b :: c :: d :: e :: f :: g :: h :: rest => do
    let char ← numbered? [a, b, c, d, e, f, g, h]
    let reading ← longBasic? false rest
    some (reading.push char)
  | '\\' :: c :: rest =>
    if startsLine (c :: rest) then longBasic? true rest
    else do
      let char ← escaped? c
      let reading ← longBasic? false rest
      some (reading.push char)
  | c :: rest =>
    if joining && isGap c then longBasic? true rest
    else if isPlain c then (longBasic? false rest).map (·.push c)
    else none

def longLiteral? : List Char → Option TextReading
  | [] => none
  | '\'' :: '\'' :: '\'' :: rest => some (closing '\'' rest)
  | '\r' :: '\n' :: rest => (longLiteral? rest).map (·.push '\n')
  | c :: rest =>
    if isPlain c || c == '\n' then (longLiteral? rest).map (·.push c) else none

def dropBreak (cs : List Char) : List Char :=
  (afterBreak? cs).getD cs

/-- A string at the start of a text, in any of the four forms. -/
def text? : List Char → Option TextReading
  | '"' :: '"' :: '"' :: rest => longBasic? false (dropBreak rest)
  | '"' :: rest => basic? rest
  | '\'' :: '\'' :: '\'' :: rest => longLiteral? (dropBreak rest)
  | '\'' :: rest => literal? rest
  | _ => none

end ClusterCost.Toml
