import CaptureArbiter.Failure

/-!
# Reading a document character by character

A cursor stands in a text and knows its line and column, on which the meaning of the text depends.
A scan reads from the cursor or finds a fault; most faults only mean that the text is malformed.
-/

namespace CaptureArbiter.Yaml

inductive Fault where
  | malformed
  | failure (f : Failure)

/-- A place in a text, and the characters from there on. -/
structure Cursor where
  rest : List Char
  index : Nat := 0
  line : Nat := 0
  column : Nat := 0

abbrev Scan (α : Type) : Type := StateT Cursor (Except Fault) α

def isBreak (c : Char) : Bool :=
  c == '\n' || c == '\r' || c == '\u0085' || c == '\u2028' || c == '\u2029'

/-- A blank within a line. -/
def isSpace (c : Char) : Bool := c == ' ' || c == '\t'

def endsLine : Option Char → Bool
  | none => true
  | some c => isBreak c

def endsWord : Option Char → Bool
  | none => true
  | some c => isBreak c || c == ' '

def endsItem : Option Char → Bool
  | none => true
  | some c => isBreak c || isSpace c

def isNameChar (c : Char) : Bool :=
  (c.isAlphanum && c.toNat < 128) || c == '-' || c == '_'

def isHexChar (c : Char) : Bool := IntegerText.digitValue c < 16

def isAllowed (c : Char) : Bool :=
  let n := c.toNat
  n == 9 || n == 10 || n == 13 || (0x20 ≤ n && n ≤ 0x7E) || n == 0x85 ||
    (0xA0 ≤ n && n ≤ 0xD7FF) || (0xE000 ≤ n && n ≤ 0xFFFD) || 0x10000 ≤ n

namespace Cursor

/-- Moves past one character. A byte order mark takes no column. -/
def next (c : Cursor) : Cursor :=
  match c.rest with
  | [] => c
  | ch :: rest =>
    if isBreak ch && !(ch == '\r' && rest.head? == some '\n') then
      { rest, index := c.index + 1, line := c.line + 1, column := 0 }
    else
      { rest, index := c.index + 1, line := c.line,
        column := if ch == '\ufeff' then c.column else c.column + 1 }

def skip (c : Cursor) : Nat → Cursor
  | 0 => c
  | n + 1 => c.next.skip n

end Cursor

namespace Scan

def malformed {α : Type} : Scan α := throw .malformed

def peek : Scan (Option Char) := do return (← get).rest.head?

def skip (n : Nat) : Scan Unit := modify (·.skip n)

def takeWhile (p : Char → Bool) : Scan (List Char) := do
  let cs := (← get).rest.takeWhile p
  skip cs.length
  return cs

/-- Reads characters up to the first that is not part of the list that `f` cuts off. -/
def takeRun (f : List Char → List Char) : Scan (List Char) := do
  let cs := f (← get).rest
  skip cs.length
  return cs

/-- Reads the next character if it is the given one, and tells whether it was. -/
def accept (c : Char) : Scan Bool := do
  if (← peek) == some c then
    skip 1
    return true
  else return false

/-- Reads the next character, which has to be the given one. -/
def expect (c : Char) : Scan Unit := do
  if !(← accept c) then malformed

/-- Reads a line break, if there is one, as it counts in a text: the usual ones as a line feed. -/
def lineBreak : Scan (List Char) := do
  match (← get).rest with
  | '\r' :: '\n' :: _ =>
    skip 2
    return ['\n']
  | c :: _ =>
    if isBreak c then
      skip 1
      return [if c == '\u2028' || c == '\u2029' then c else '\n']
    else return []
  | [] => return []

/-- Does a line of three dashes or three dots begin here? -/
def atDocumentMark : Scan Bool := do
  match (← get).rest with
  | '-' :: '-' :: '-' :: rest => return endsItem rest.head?
  | '.' :: '.' :: '.' :: rest => return endsItem rest.head?
  | _ => return false

/-- Repeats a step that reads on until it gives a result. Each step reads at least one character
except the last, so the characters left bound the number of steps. -/
def repeatWithin {β γ : Type} (step : β → Scan (β ⊕ γ)) : Nat → β → Scan γ
  | 0, _ => malformed
  | fuel + 1, b => do
    match ← step b with
    | .inl b => repeatWithin step fuel b
    | .inr g => return g

/-- Repeats a step that reads on until it gives a result. -/
def repeatFrom {β γ : Type} (step : β → Scan (β ⊕ γ)) (start : β) : Scan γ := do
  repeatWithin step ((← get).rest.length + 2) start

/-- Reads spaces and a comment, after which the line has to end. -/
def restOfLine : Scan Unit := do
  let _ ← takeWhile (· == ' ')
  if (← peek) == some '#' then
    let _ ← takeWhile (!isBreak ·)
  if !endsLine (← peek) then malformed
  let _ ← lineBreak

end Scan

end CaptureArbiter.Yaml
