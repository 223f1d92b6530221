import CaptureArbiter.Yaml.Cursor

/-!
# Tokens; directives, anchors and tags

A text is cut into tokens. Indentation gives rise to tokens of its own, which open and close blocks;
directives, anchors and tags say something about a document or a node but are no part of its
contents.
-/

namespace CaptureArbiter.Yaml

/-- What a line that begins with a percent sign says. -/
inductive Directive where
  | version (major : Nat)
  | tagHandle (handle start : String)
  | other

/-- The tokens. A fault ends a list of tokens that is cut short. -/
inductive Token where
  | streamEnd
  | directive (d : Directive)
  | documentStart
  | documentEnd
  | blockSequenceStart
  | blockMappingStart
  | blockEnd
  | flowSequenceStart
  | flowSequenceEnd
  | flowMappingStart
  | flowMappingEnd
  | blockEntry
  | flowEntry
  | key
  | value
  | alias (name : String)
  | anchor (name : String)
  | tag (handle : Option String) (suffix : String)
  | scalar (isPlain : Bool) (text : String)
  | fault (f : Fault)

namespace Token

def tagPunctuation : List Char := "-;/?:@&=+$,_.!~*'()[]%".toList

def isTagChar (c : Char) : Bool :=
  (c.isAlphanum && c.toNat < 128) || (tagPunctuation.contains c && c != '%')

/-- Bytes written as a percent sign and two hexadecimal digits each. -/
def escapedBytes : Scan (List UInt8) :=
  Scan.repeatFrom (fun bytes => do
    match (← get).rest with
    | '%' :: a :: b :: _ =>
      if isHexChar a && isHexChar b then
        Scan.skip 3
        let n := Decimal.digitsValue 16 [IntegerText.digitValue a, IntegerText.digitValue b]
        return .inl (bytes ++ [n.toUInt8])
      else Scan.malformed
    | '%' :: _ => Scan.malformed
    | _ => return .inr bytes) []

/-- The text of a tag, with escaped bytes read as UTF-8. -/
def tagText : Scan String := do
  let text ← Scan.repeatFrom (fun text => do
    let run ← Scan.takeWhile isTagChar
    if (← Scan.peek) == some '%' then
      match String.fromUTF8? ⟨(← escapedBytes).toArray⟩ with
      | some s => return .inl (text ++ run ++ s.toList)
      | none => Scan.malformed
    else return .inr (text ++ run)) []
  if text.isEmpty then Scan.malformed
  else return String.ofList text

/-- A handle of tags: an exclamation mark, or a name between two. -/
def tagHandle : Scan String := do
  Scan.expect '!'
  if (← Scan.peek) == some ' ' then return "!"
  else
    let name ← Scan.takeWhile isNameChar
    Scan.expect '!'
    return String.ofList ('!' :: name ++ ['!'])

def wordHasMark : List Char → Bool
  | [] => false
  | c :: cs => if isBreak c || c == ' ' then false else c == '!' || wordHasMark cs

/-- A tag: written out between angle brackets, alone, or with a handle. -/
def tagToken : Scan Token := do
  let token ← match (← get).rest with
    | '!' :: '<' :: _ => do
      Scan.skip 2
      let suffix ← tagText
      Scan.expect '>'
      pure (Token.tag none suffix)
    | _ :: rest => do
      if endsItem rest.head? then
        Scan.skip 1
        pure (Token.tag none "!")
      else if wordHasMark rest then
        let handle ← tagHandle
        pure (Token.tag (some handle) (← tagText))
      else
        Scan.skip 1
        pure (Token.tag (some "!") (← tagText))
    | [] => Scan.malformed
  if endsWord (← Scan.peek) then return token else Scan.malformed

def endsAnchor : Option Char → Bool
  | none => true
  | some c => endsItem (some c) || "?:,]\x7d%@\x60".toList.contains c

def anchorName : Scan String := do
  Scan.skip 1
  let name ← Scan.takeWhile isNameChar
  if name.isEmpty || !endsAnchor (← Scan.peek) then Scan.malformed
  else return String.ofList name

def versionNumber : Scan Nat := do
  let digits ← Scan.takeWhile Char.isDigit
  if digits.isEmpty then Scan.malformed
  else return Decimal.digitsValue 10 (digits.map IntegerText.digitValue)

def versionDirective : Scan Directive := do
  let _ ← Scan.takeWhile (· == ' ')
  let major ← versionNumber
  Scan.expect '.'
  let _ ← versionNumber
  if endsWord (← Scan.peek) then return .version major else Scan.malformed

def handleDirective : Scan Directive := do
  let _ ← Scan.takeWhile (· == ' ')
  let handle ← tagHandle
  if (← Scan.peek) != some ' ' then Scan.malformed
  let _ ← Scan.takeWhile (· == ' ')
  let start ← tagText
  if endsWord (← Scan.peek) then return .tagHandle handle start else Scan.malformed

/-- A directive; one of an unknown name is skipped. -/
def directiveToken : Scan Token := do
  Scan.skip 1
  let name ← Scan.takeWhile isNameChar
  if name.isEmpty || !endsWord (← Scan.peek) then Scan.malformed
  let directive ←
    if name == "YAML".toList then versionDirective
    else if name == "TAG".toList then handleDirective
    else do
      let _ ← Scan.takeWhile (!isBreak ·)
      pure .other
  Scan.restOfLine
  return .directive directive

end Token

end CaptureArbiter.Yaml
