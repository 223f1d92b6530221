import CaptureArbiter.Text.CharacterClass
import CaptureArbiter.Value.Reading

/-!
# Command lines

A command line is a list of words. Options begin with two hyphens and may be shortened as long as
only one is meant; the value of an option is the next word or follows an equals sign. Every word is
classified before any option takes effect, so a word that could mean several options is refused
first; then the options take effect in order, and words that belong to no option are refused last.
-/

namespace CaptureArbiter.CommandLine

structure Arguments where
  configDir : String := "config"
  audio : StreamKind := .noService
  video : StreamKind := .noService
  requestKind : RequestKind := .generateStream
  audioDeviceId : String := ""
  videoDeviceId : String := ""
  origin : String := ""
  processId : Int := 1
  frameId : Int := 1
  noFrame : Bool := false
  verbose : Bool := false
  logLevel : String := ""

inductive Switch where
  | help
  | configDir
  | audio
  | video
  | requestKind
  | audioDeviceId
  | videoDeviceId
  | origin
  | processId
  | frameId
  | noFrame
  | verbose
  | logLevel
  deriving DecidableEq, Repr

/-- Why there are no arguments: help was asked for, or the command line is not understood. -/
inductive Refusal where
  | help
  | usage
  deriving DecidableEq, Repr

inductive Word where
  | switch (s : Switch) (given : Option String)
  | helpLetters (letters : List Char)
  | unknownSwitch
  | plain (text : String)
  | end_
  deriving DecidableEq, Repr

def spellings : List (String × Switch) :=
  [("-h", .help), ("--help", .help), ("--config-dir", .configDir), ("--audio", .audio),
    ("--video", .video), ("--request-type", .requestKind), ("--audio-device-id", .audioDeviceId),
    ("--video-device-id", .videoDeviceId), ("--origin", .origin), ("--process-id", .processId),
    ("--frame-id", .frameId), ("--no-frame", .noFrame), ("--verbose", .verbose),
    ("--log-level", .logLevel)]

def Switch.takesValue : Switch → Bool
  | .help | .noFrame | .verbose => false
  | _ => true

def isDigit (c : Char) : Bool := (Text.decimalDigit? c).isSome

def isNegativeNumber (word : List Char) : Bool :=
  match word with
  | '-' :: body =>
    let cs := if body.getLast? == some '\n' then body.dropLast else body
    match cs.dropWhile isDigit with
    | [] => !cs.isEmpty
    | '.' :: fraction => !fraction.isEmpty && fraction.all isDigit
    | _ => false
  | _ => false

def splitValue (word : List Char) : List Char × Option (List Char) :=
  match word.dropWhile (· != '=') with
  | [] => (word, none)
  | _ :: value => (word.takeWhile (· != '='), some value)

def meanings (start : List Char) : List Switch :=
  match start with
  | '-' :: '-' :: _ => (spellings.filter fun s => start.isPrefixOf s.1.toList).map (·.2)
  | _ => []

/-- What a word is that begins with a hyphen and is no complete option. -/
def classifyShortened (text : String) (word : List Char) : Except Refusal Word :=
  let (start, value) := splitValue word
  let given := value.map String.ofList
  let exact := if value.isSome then spellings.lookup (String.ofList start) else none
  match exact, meanings start, word with
  | some s, _, _ => .ok (.switch s given)
  | none, [s], _ => .ok (.switch s given)
  | none, _ :: _, _ => .error .usage
  | none, [], '-' :: 'h' :: letters => .ok (.helpLetters letters)
  | none, [], _ =>
    if isNegativeNumber word || word.contains ' ' then .ok (.plain text) else .ok .unknownSwitch

def classify (text : String) : Except Refusal Word :=
  match text.toList with
  | '-' :: rest =>
    match spellings.lookup text with
    | some s => .ok (.switch s none)
    | none => if rest.isEmpty then .ok (.plain text) else classifyShortened text ('-' :: rest)
  | _ => .ok (.plain text)

/-- What the words are. Behind two hyphens there are no options. -/
def classifyAll : List String → Except Refusal (List Word)
  | [] => .ok []
  | text :: texts =>
    if text == "--" then .ok (.end_ :: texts.map .plain)
    else do
      let word ← classify text
      return word :: (← classifyAll texts)

def choice {α : Type} [Named α] (value : String) : Except Refusal α :=
  match Named.ofName? value with
  | some a => .ok a
  | none => .error .usage

def number (value : String) : Except Refusal Int :=
  match Value.readInteger 10 value with
  | .ok n => .ok n
  | .error _ => .error .usage

def setValue (a : Arguments) (value : String) : Switch → Except Refusal Arguments
  | .configDir => .ok { a with configDir := value }
  | .audio => do return { a with audio := ← choice value }
  | .video => do return { a with video := ← choice value }
  | .requestKind => do return { a with requestKind := ← choice value }
  | .audioDeviceId => .ok { a with audioDeviceId := value }
  | .videoDeviceId => .ok { a with videoDeviceId := value }
  | .origin => .ok { a with origin := value }
  | .processId => do return { a with processId := ← number value }
  | .frameId => do return { a with frameId := ← number value }
  | .logLevel => .ok { a with logLevel := value }
  | .help | .noFrame | .verbose => .error .usage

def setFlag (a : Arguments) : Switch → Except Refusal Arguments
  | .help => .error .help
  | .noFrame => .ok { a with noFrame := true }
  | .verbose => .ok { a with verbose := true }
  | _ => .error .usage

/-- The effect of letters behind the short option for help, which are short options again. Any
letter asks for help, but a hyphen is no letter, and the last `h` is given no value. -/
def helpOrUsage : List Char → Refusal
  | [] => .help
  | ['h'] => .help
  | 'h' :: '=' :: _ => .usage
  | 'h' :: letters => helpOrUsage letters
  | c :: _ => if c == '-' then .usage else .help

/-- Lets the options take effect in order; tells also whether words are left over. -/
def apply (a : Arguments) (leftOver : Bool) : List Word → Except Refusal (Arguments × Bool)
  | [] => .ok (a, leftOver)
  | .switch s (some given) :: words =>
    if s.takesValue then do apply (← setValue a given s) leftOver words
    else .error .usage
  | .helpLetters letters :: _ => .error (helpOrUsage letters)
  | .switch s none :: words =>
    if s.takesValue then
      match words with
      | .plain value :: words => do apply (← setValue a value s) leftOver words
      | _ => .error .usage
    else do apply (← setFlag a s) leftOver words
  | _ :: words => apply a true words

def parse (texts : List String) : Except Refusal Arguments := do
  let (a, leftOver) ← apply {} false (← classifyAll texts)
  if leftOver then throw .usage else return a

end CaptureArbiter.CommandLine
