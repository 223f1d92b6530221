import CaptureArbiter.Yaml.Node.Reader
import CaptureArbiter.Yaml.Node.Value
import CaptureArbiter.Yaml.Token.Lexer

/-!
# Documents

The text of a file stands for one value. An empty text stands for null.
-/

namespace CaptureArbiter.Yaml

def valueOfText (text : List Char) : Except Fault Value := do
  if !text.all isAllowed then throw .malformed
  match ← Node.ofTokens (Lexer.tokensOf text) with
  | some root => root.value
  | none => return .null

/-- Line breaks of all systems become line feeds. -/
def unifyBreaks : List Char → List Char
  | [] => []
  | '\r' :: '\n' :: cs => '\n' :: unifyBreaks cs
  | c :: cs => (if c == '\r' then '\n' else c) :: unifyBreaks cs

def readFile (path text : String) : Except Failure Value :=
  match valueOfText (unifyBreaks text.toList) with
  | .ok v => .ok v
  | .error .malformed => .error (.badDocument path)
  | .error (.failure f) => .error f

end CaptureArbiter.Yaml
