import CaptureArbiter.Yaml.Token.Property
import CaptureArbiter.Yaml.Token.ScalarText

/-!
# Cutting a text into tokens

Blocks are found by indentation: a deeper column opens one and a shallower closes some. A key is
known as a key only when its colon is reached, so the place of everything that may be a key is
remembered, one place per level of brackets, and the tokens that say so are put there later. Such a
key ends on its line and after at most 1024 characters.
-/

namespace CaptureArbiter.Yaml

/-- A place where a key may have begun. A required key has to turn out to be one. -/
structure KeyPlace where
  level : Nat
  token : Nat
  isRequired : Bool
  index : Nat
  line : Nat
  column : Nat

structure Lexer where
  cursor : Cursor
  tokens : Array Token := #[]
  /-- The number of brackets that are open. -/
  level : Nat := 0
  /-- The column of the innermost block. -/
  indent : Int := -1
  /-- The columns of the blocks around it, innermost first. -/
  outer : List Int := []
  /-- May a key begin here? -/
  allowsKey : Bool := true
  keys : List KeyPlace := []
  isDone : Bool := false

abbrev Lex (α : Type) : Type := StateT Lexer (Except Fault) α

namespace Lex

def scan {α : Type} (s : Scan α) : Lex α := do
  match s.run (← get).cursor with
  | .ok (x, cursor) =>
    modify ({ · with cursor })
    return x
  | .error e => throw e

def malformed {α : Type} : Lex α := throw .malformed

def emit (t : Token) : Lex Unit := modify fun l => { l with tokens := l.tokens.push t }

def emitLong (n : Nat) (t : Token) : Lex Unit := do
  scan (Scan.skip n)
  emit t

def insert (position : Nat) (t : Token) : Lex Unit :=
  modify fun l =>
    { l with tokens := (l.tokens.extract 0 position).push t ++
      l.tokens.extract position l.tokens.size }

def allowKey (allowsKey : Bool) : Lex Unit := modify ({ · with allowsKey })

/-- Drops the places of keys that satisfy `p`; none of them may be required. -/
def dropKeys (p : KeyPlace → Bool) : Lex Unit := do
  if (← get).keys.any fun k => p k && k.isRequired then malformed
  modify fun l => { l with keys := l.keys.filter (!p ·) }

/-- Drops the places that are too far away. -/
def dropStaleKeys : Lex Unit := do
  let c := (← get).cursor
  dropKeys fun k => k.line != c.line || 1024 + k.index < c.index

/-- Drops the place of the present level of brackets. -/
def dropKey : Lex Unit := do
  let level := (← get).level
  dropKeys (·.level == level)

/-- Remembers the present place if a key may begin here. A key at the column of its block has to be
one. -/
def saveKey : Lex Unit := do
  let l ← get
  if l.allowsKey then
    dropKey
    let c := l.cursor
    let place : KeyPlace :=
      { level := l.level
        token := l.tokens.size
        isRequired := l.level == 0 && l.indent == c.column
        index := c.index
        line := c.line
        column := c.column }
    modify fun l => { l with keys := place :: l.keys }

def closeBlocksIn (column indent : Int) : List Int → Lex Unit
  | [] => modify ({ · with indent, outer := [] })
  | next :: outer => do
    if column < indent then
      emit .blockEnd
      closeBlocksIn column next outer
    else modify ({ · with indent, outer := next :: outer })

/-- Closes the blocks that are deeper than a column. Brackets keep blocks open. -/
def closeBlocks (column : Int) : Lex Unit := do
  let l ← get
  if l.level == 0 then closeBlocksIn column l.indent l.outer

/-- Opens a block at a column, unless the innermost block is there, and tells whether it did. -/
def openBlock (column : Nat) : Lex Bool := do
  let l ← get
  if l.indent < column then
    modify fun l => { l with indent := column, outer := l.indent :: l.outer }
    return true
  else return false

def endBlocks : Lex Unit := do
  closeBlocks (-1)
  dropKey
  allowKey false

/-- Skips blanks, comments and line breaks; after a break a key may begin. -/
def skipToToken : Lex Unit := do
  let crossed ← scan <| do
    if (← get).index == 0 then
      let _ ← Scan.accept '\ufeff'
    Scan.repeatFrom (fun crossed => do
      let _ ← Scan.takeWhile (· == ' ')
      if (← Scan.peek) == some '#' then
        let _ ← Scan.takeWhile (!isBreak ·)
      let b ← Scan.lineBreak
      if b.isEmpty then return .inr crossed else return .inl true) false
  if crossed && (← get).level == 0 then allowKey true

def streamEnd : Lex Unit := do
  endBlocks
  emit .streamEnd
  modify ({ · with isDone := true })

def directive : Lex Unit := do
  endBlocks
  emit (← scan Token.directiveToken)

def documentMark (t : Token) : Lex Unit := do
  endBlocks
  emitLong 3 t

def openBracket (t : Token) : Lex Unit := do
  saveKey
  modify fun l => { l with level := l.level + 1 }
  allowKey true
  emitLong 1 t

def closeBracket (t : Token) : Lex Unit := do
  dropKey
  if (← get).level == 0 then malformed
  modify fun l => { l with level := l.level - 1 }
  allowKey false
  emitLong 1 t

def flowEntry : Lex Unit := do
  allowKey true
  dropKey
  emitLong 1 .flowEntry

/-- Opens a block for an entry or key that begins at the present column. -/
def openBlockHere (t : Token) : Lex Unit := do
  let l ← get
  if l.level == 0 then
    if !l.allowsKey then malformed
    if ← openBlock l.cursor.column then emit t

def blockEntry : Lex Unit := do
  openBlockHere .blockSequenceStart
  allowKey true
  dropKey
  emitLong 1 .blockEntry

def keyMark : Lex Unit := do
  openBlockHere .blockMappingStart
  allowKey ((← get).level == 0)
  dropKey
  emitLong 1 .key

/-- The colon of a value. What stood at the remembered place turns out to be a key. -/
def valueMark : Lex Unit := do
  let l ← get
  match l.keys.find? (·.level == l.level) with
  | some k =>
    modify fun l => { l with keys := l.keys.filter (·.level != l.level) }
    insert k.token .key
    if l.level == 0 then
      if ← openBlock k.column then insert k.token .blockMappingStart
    allowKey false
  | none =>
    openBlockHere .blockMappingStart
    allowKey (l.level == 0)
  emitLong 1 .value

def keyPart (read : Scan Token) : Lex Unit := do
  saveKey
  allowKey false
  emit (← scan read)

def block (folded : Bool) : Lex Unit := do
  allowKey true
  dropKey
  let outer := (← get).indent
  emit (.scalar false (String.ofList (← scan (Token.blockScalar folded outer))))

def plain : Lex Unit := do
  saveKey
  let l ← get
  let (text, crossed) ← scan (Token.plainScalar (l.level != 0) (l.indent + 1))
  allowKey crossed
  emit (.scalar true (String.ofList text))

/-- Marks that cannot begin a plain scalar by themselves. -/
def marks : List Char := "-?:,[]\x7b\x7d#&*!|>'\"%@\x60".toList

def beginsPlain (inFlow : Bool) (c : Char) (next : Option Char) : Bool :=
  !(isBreak c || isSpace c || marks.contains c) ||
    (!endsItem next && (c == '-' || (!inFlow && (c == '?' || c == ':'))))

def tokenAt (c : Char) (next : Option Char) : Lex Unit := do
  let l ← get
  let inFlow := l.level != 0
  let atMark := l.cursor.column == 0 && (← scan Scan.atDocumentMark)
  if c == '%' && l.cursor.column == 0 then directive
  else if atMark then documentMark (if c == '-' then .documentStart else .documentEnd)
  else if c == '[' then openBracket .flowSequenceStart
  else if c == '\x7b' then openBracket .flowMappingStart
  else if c == ']' then closeBracket .flowSequenceEnd
  else if c == '\x7d' then closeBracket .flowMappingEnd
  else if c == ',' then flowEntry
  else if c == '-' && endsItem next then blockEntry
  else if c == '?' && (inFlow || endsItem next) then keyMark
  else if c == ':' && (inFlow || endsItem next) then valueMark
  else if c == '*' then keyPart (do return .alias (← Token.anchorName))
  else if c == '&' then keyPart (do return .anchor (← Token.anchorName))
  else if c == '!' then keyPart Token.tagToken
  else if c == '|' && !inFlow then block false
  else if c == '>' && !inFlow then block true
  else if c == '\'' then
    keyPart (do return .scalar false (String.ofList (← Token.quotedScalar false)))
  else if c == '"' then
    keyPart (do return .scalar false (String.ofList (← Token.quotedScalar true)))
  else if beginsPlain inFlow c next then plain
  else malformed

/-- Cuts off the next token and those that indentation puts before it. -/
def step : Lex Unit := do
  skipToToken
  dropStaleKeys
  closeBlocks (← get).cursor.column
  match (← get).cursor.rest with
  | [] => streamEnd
  | c :: rest => tokenAt c rest.head?

end Lex

namespace Lexer

/-- Cuts off tokens until the end or a fault. Each step but the last reads at least one character,
so the characters left bound the number of steps. -/
def run : Nat → Lexer → Array Token
  | 0, l => l.tokens.push (.fault .malformed)
  | fuel + 1, l =>
    match Lex.step.run l with
    | .error e => l.tokens.push (.fault e)
    | .ok ((), next) => if next.isDone then next.tokens else run fuel next

def tokensOf (text : List Char) : List Token :=
  (run (text.length + 2) { cursor := { rest := text } }).toList

end Lexer

end CaptureArbiter.Yaml
