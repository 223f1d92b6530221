import CaptureArbiter.Yaml.Cursor

/-!
# The texts of scalars

A scalar is written plainly, between quotes, or as a block. In the first two forms a line break
counts as a space and further breaks stay; a block keeps its lines or folds them in the same way.
-/

namespace CaptureArbiter.Yaml.Token

/-- Does a colon before this character end a plain scalar? -/
def endsKey (inFlow : Bool) : Option Char → Bool
  | none => true
  | some c => endsItem (some c) || (inFlow && ",[]\x7b\x7d".toList.contains c)

/-- The characters of a plain scalar up to the next blank or mark. -/
def plainRun (inFlow : Bool) : List Char → List Char
  | [] => []
  | c :: cs =>
    if isBreak c || isSpace c then []
    else if c == ':' && endsKey inFlow cs.head? then []
    else if inFlow && ",?[]\x7b\x7d".toList.contains c then []
    else c :: plainRun inFlow cs

/-- What stands between two parts of a plain scalar. -/
structure Gap where
  /-- What the gap counts as. -/
  text : List Char
  /-- Does the gap reach over a line break? -/
  crossesLine : Bool

/-- The breaks after the first of a gap, and the spaces around them; nothing if a document ends
there. -/
def furtherBreaks : Scan (Option (List Char)) :=
  Scan.repeatFrom (fun breaks => do
    if (← Scan.peek) == some ' ' then
      Scan.skip 1
      return .inl breaks
    else
      let b ← Scan.lineBreak
      if b.isEmpty then return .inr (some breaks)
      else if ← Scan.atDocumentMark then return .inr none
      else return .inl (breaks ++ b)) []

/-- A line break and further ones, as they count in a text. -/
def foldedBreaks (first breaks : List Char) : List Char :=
  if first != ['\n'] then first ++ breaks
  else if breaks.isEmpty then [' ']
  else breaks

def plainGap : Scan Gap := do
  let spaces ← Scan.takeWhile (· == ' ')
  let first ← Scan.lineBreak
  if first.isEmpty then return ⟨spaces, false⟩
  else if ← Scan.atDocumentMark then return ⟨[], true⟩
  else match ← furtherBreaks with
    | none => return ⟨[], true⟩
    | some breaks => return ⟨foldedBreaks first breaks, true⟩

/-- Reads a plain scalar whose further lines stand at `indent` or deeper, and tells whether the
reading has ended after a line break. -/
def plainScalar (inFlow : Bool) (indent : Int) : Scan (List Char × Bool) :=
  Scan.repeatFrom (fun ((text, gap) : List Char × Gap) => do
    let run ← Scan.takeRun fun cs => if cs.head? == some '#' then [] else plainRun inFlow cs
    if run.isEmpty then return .inr (text, gap.crossesLine)
    else
      let text := text ++ gap.text ++ run
      let gap ← plainGap
      let c ← get
      if gap.text.isEmpty || c.rest.head? == some '#' || (!inFlow && (c.column : Int) < indent) then
        return .inr (text, gap.crossesLine)
      else return .inl (text, gap)) ([], ⟨[], false⟩)

/-- The breaks inside a quoted scalar, with the blanks that begin the lines. -/
def quotedBreaks : Scan (List Char) :=
  Scan.repeatFrom (fun breaks => do
    if ← Scan.atDocumentMark then Scan.malformed
    let _ ← Scan.takeWhile isSpace
    let b ← Scan.lineBreak
    if b.isEmpty then return .inr breaks else return .inl (breaks ++ b)) []

def shortEscapes : List (Char × Char) :=
  [('0', '\u0000'), ('a', '\u0007'), ('b', '\u0008'), ('t', '\t'), ('\t', '\t'), ('n', '\n'),
    ('v', '\u000b'), ('f', '\u000c'), ('r', '\r'), ('e', '\u001b'), (' ', ' '), ('"', '"'),
    ('\\', '\\'), ('/', '/'), ('N', '\u0085'), ('_', '\u00a0'), ('L', '\u2028'), ('P', '\u2029')]

/-- How many hexadecimal digits follow a backslash and a letter. -/
def escapeWidth? (c : Char) : Option Nat :=
  if c == 'x' then some 2 else if c == 'u' then some 4 else if c == 'U' then some 8 else none

def charOfCode (n : Nat) : Scan Char :=
  if 0x80000000 ≤ n then throw (.failure .hugeCodePoint)
  else if 0x110000 ≤ n then throw (.failure .badCodePoint)
  else if 0xD800 ≤ n && n < 0xE000 then pure '\ufffd'
  else pure (Char.ofNat n)

def escapeSequence : Scan (List Char) := do
  Scan.skip 1
  match ← Scan.peek with
  | none => Scan.malformed
  | some c =>
    match shortEscapes.lookup c with
    | some e =>
      Scan.skip 1
      return [e]
    | none =>
      match escapeWidth? c with
      | some width =>
        Scan.skip 1
        let digits := (← get).rest.take width
        if digits.length < width || !digits.all isHexChar then Scan.malformed
        else
          let e ← charOfCode (Decimal.digitsValue 16 (digits.map IntegerText.digitValue))
          Scan.skip width
          return [e]
      | none =>
        if isBreak c then
          let _ ← Scan.lineBreak
          quotedBreaks
        else Scan.malformed

/-- A character of a quoted scalar that stands for itself. -/
def isQuotedChar (c : Char) : Bool :=
  !(c == '\'' || c == '"' || c == '\\' || isSpace c || isBreak c)

/-- The part of a quoted scalar up to the next blank or its end. -/
def quotedRun (isDouble : Bool) : Scan (List Char) :=
  Scan.repeatFrom (fun text => do
    let run ← Scan.takeWhile isQuotedChar
    let text := text ++ run
    match (← get).rest with
    | '\'' :: '\'' :: _ =>
      if isDouble then
        Scan.skip 1
        return .inl (text ++ ['\''])
      else
        Scan.skip 2
        return .inl (text ++ ['\''])
    | c :: _ =>
      if (isDouble && c == '\'') || (!isDouble && (c == '"' || c == '\\')) then
        Scan.skip 1
        return .inl (text ++ [c])
      else if isDouble && c == '\\' then return .inl (text ++ (← escapeSequence))
      else return .inr text
    | [] => return .inr text) []

/-- The blanks and breaks inside a quoted scalar, as they count. -/
def quotedGap : Scan (List Char) := do
  let spaces ← Scan.takeWhile isSpace
  if (← Scan.peek).isNone then Scan.malformed
  let first ← Scan.lineBreak
  if first.isEmpty then return spaces
  else return foldedBreaks first (← quotedBreaks)

def quotedScalar (isDouble : Bool) : Scan (List Char) := do
  let quote := if isDouble then '"' else '\''
  Scan.skip 1
  let start ← quotedRun isDouble
  Scan.repeatFrom (fun text => do
    if ← Scan.accept quote then return .inr text
    else
      let gap ← quotedGap
      return .inl (text ++ gap ++ (← quotedRun isDouble))) start

/-- What happens to the line breaks at the end of a block. -/
inductive Chomping where
  | clip
  | strip
  | keep
  deriving DecidableEq

def chomping? : Scan (Option Chomping) := do
  if ← Scan.accept '+' then return some .keep
  else if ← Scan.accept '-' then return some .strip
  else return none

/-- The digit for the indentation of a block, from 1 to 9. -/
def increment? : Scan (Option Nat) := do
  match ← Scan.peek with
  | some c =>
    if c == '0' then Scan.malformed
    else if c.isDigit then
      Scan.skip 1
      return some (IntegerText.digitValue c)
    else return none
  | none => return none

/-- The signs after the mark of a block, in either order. -/
def blockSigns : Scan (Chomping × Option Nat) := do
  let before ← chomping?
  let increment ← increment?
  let after ← match before, increment with
    | none, some _ => chomping?
    | _, _ => pure none
  if endsWord (← Scan.peek) then return ((before.or after).getD .clip, increment)
  else Scan.malformed

def skipSpacesTo (column : Nat) : Scan Unit := do
  let c ← get
  let spaces := c.rest.takeWhile (· == ' ')
  Scan.skip (min spaces.length (column - c.column))

def blockBreaks (indent : Nat) : Scan (List Char) := do
  skipSpacesTo indent
  Scan.repeatFrom (fun breaks => do
    let b ← Scan.lineBreak
    if b.isEmpty then return .inr breaks
    else
      skipSpacesTo indent
      return .inl (breaks ++ b)) []

/-- The empty lines that begin a block, and the deepest column among them and the first line. -/
def leadingBreaks : Scan (List Char × Nat) :=
  Scan.repeatFrom (fun (breaks, deepest) => do
    if ← Scan.accept ' ' then return .inl (breaks, max deepest (← get).column)
    else
      let b ← Scan.lineBreak
      if b.isEmpty then return .inr (breaks, deepest)
      else return .inl (breaks ++ b, deepest)) ([], 0)

structure BlockState where
  text : List Char
  breaks : List Char
  lastBreak : List Char

/-- The break between two lines of a block, and the empty lines between them. Folded blocks join
lines that begin with no blank. -/
def blockJoin (folded joins : Bool) (first breaks : List Char) : List Char :=
  if folded && first == ['\n'] && joins then if breaks.isEmpty then [' '] else []
  else first

def isJoinable : Option Char → Bool
  | some c => !isSpace c
  | none => true

def blockLines (folded : Bool) (indent : Nat) (breaks : List Char) : Scan BlockState :=
  Scan.repeatFrom (fun (s : BlockState) => do
    let c ← get
    if c.column == indent && !c.rest.isEmpty then
      let joins := isJoinable c.rest.head?
      let line ← Scan.takeWhile (!isBreak ·)
      let lastBreak ← Scan.lineBreak
      let breaks ← blockBreaks indent
      let text := s.text ++ s.breaks ++ line
      let c ← get
      if c.column == indent && !c.rest.isEmpty then
        let join := blockJoin folded (joins && isJoinable c.rest.head?) lastBreak breaks
        return .inl ⟨text ++ join, breaks, lastBreak⟩
      else return .inr ⟨text, breaks, lastBreak⟩
    else return .inr s) ⟨[], breaks, []⟩

def blockScalar (folded : Bool) (outer : Int) : Scan (List Char) := do
  Scan.skip 1
  let (chomping, increment) ← blockSigns
  Scan.restOfLine
  let least := max 1 (outer + 1).toNat
  let (breaks, indent) ← match increment with
    | none => do
      let (breaks, deepest) ← leadingBreaks
      pure (breaks, max least deepest)
    | some n => do
      let indent := least + n - 1
      pure (← blockBreaks indent, indent)
  let s ← blockLines folded indent breaks
  let tail := match chomping with
    | .strip => []
    | .clip => s.lastBreak
    | .keep => s.lastBreak ++ s.breaks
  return s.text ++ tail

end CaptureArbiter.Yaml.Token
