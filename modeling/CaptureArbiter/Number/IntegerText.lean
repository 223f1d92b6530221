import CaptureArbiter.Number.Decimal
import CaptureArbiter.Text.CharacterClass

/-!
# Texts that are read as integers

An integer text may have blanks around it, a sign, decimal digits of any script and single
underscores between digits. In base ten at most 4300 digits are read. The other bases admit their
customary marks (`0x`, `0o`, `0b`) in front.
-/

namespace CaptureArbiter.IntegerText

/-- Why a text is not read as an integer. -/
inductive Fault where
  | malformed
  | tooLong (digits : Nat)
  deriving DecidableEq, Repr

def digitLimit : Nat := 4300

/-- The ASCII blanks that may surround a number. -/
def isPadding (c : Char) : Bool := c == ' ' || (9 ≤ c.toNat && c.toNat ≤ 13)

/-- Blanks and decimal digits of other scripts become ASCII; other foreign characters become `?`,
which is no part of a number. -/
def foldScript (c : Char) : Char :=
  if c.toNat < 128 then c
  else if Text.isBlank c then ' '
  else match Text.decimalDigit? c with
    | some d => Decimal.digitChar d
    | none => '?'

/-- The value of an ASCII digit or letter as a digit; 36 for any other character. -/
def digitValue (c : Char) : Nat :=
  let n := c.toNat
  if 48 ≤ n && n ≤ 57 then n - 48
  else if 97 ≤ n && n ≤ 122 then n - 87
  else if 65 ≤ n && n ≤ 90 then n - 55
  else 36

def isDigitOf (base : Nat) (c : Char) : Bool := digitValue c < base

/-- Splits off the sign; `true` means minus. -/
def splitSign : List Char → Bool × List Char
  | '-' :: cs => (true, cs)
  | '+' :: cs => (false, cs)
  | cs => (false, cs)

def baseLetter? : Nat → Option Char
  | 2 => some 'b'
  | 8 => some 'o'
  | 16 => some 'x'
  | _ => none

/-- Drops the mark of the base with one underscore after it, if there is one. -/
def dropMark (base : Nat) (cs : List Char) : List Char :=
  match cs with
  | '0' :: l :: rest =>
    if baseLetter? base == some l.toLower then
      match rest with
      | '_' :: r => r
      | r => r
    else cs
  | _ => cs

/-- Does every underscore stand between two digits? `open_` says that a digit has to follow. -/
def isSeparated (open_ : Bool) : List Char → Bool
  | [] => !open_
  | c :: cs => if c == '_' then !open_ && isSeparated true cs else isSeparated false cs

def readMagnitude (base : Nat) (cs : List Char) : Except Fault (Nat × List Char) :=
  let inRun := fun c => isDigitOf base c || c == '_'
  let run := cs.takeWhile inRun
  if isSeparated true run then
    let digits := (run.filter (· != '_')).map digitValue
    if base == 10 && digitLimit < digits.length then .error (.tooLong digits.length)
    else .ok (Decimal.digitsValue base digits, cs.dropWhile inRun)
  else .error .malformed

def readChars (base : Nat) (cs : List Char) : Except Fault Int :=
  let (minus, body) := splitSign ((cs.map foldScript).dropWhile isPadding)
  match readMagnitude base (dropMark base body) with
  | .error fault => .error fault
  | .ok (magnitude, rest) =>
    if rest.all isPadding then .ok (if minus then -(magnitude : Int) else magnitude)
    else .error .malformed

def read (base : Nat) (s : String) : Except Fault Int := readChars base s.toList

def write? (n : Int) : Option String :=
  if n.natAbs < Nat.pow 10 digitLimit then some (Decimal.ofInt n) else none

end CaptureArbiter.IntegerText
