import CaptureArbiter.Media
import CaptureArbiter.Number.IntegerText
import CaptureArbiter.Value.Basic

/-!
# Failures

Every way in which an operation can fail is one cause here, with the data it is about. A cause
belongs to a kind of failure, which callers tell apart, and has a message, which people read.
-/

namespace CaptureArbiter

inductive FailureKind where
  | badValue
  | badType
  | noAttribute
  | badIndex
  | badKey
  | overflow
  | runtime
  | configuration
  | callbackUsed
  | unreachableRequest
  | isDirectory
  deriving DecidableEq, Repr

inductive Failure where
  /- Numbers -/
  | integerTextTooLong (digits : Nat)
  | integerTooLong
  | notInteger (base : Nat) (text : String)
  | notIntegerBytes (data : List UInt8)
  | notFloat (text : String)
  | nanToInteger
  | infinityToInteger
  | noIntegerFrom (className : String)
  /- Names -/
  | unknownChoice (field : String) (value : Value) (choices : List String)
  | notMember (enumeration : String) (value : Value)
  | foreignMember (shown enumeration : String)
  | unknownBackend (label name : String) (available : List String) (hint : Option String)
  | relativeImport (name : String)
  /- Catalogs -/
  | wrongDeviceKind (id : String) (kind expected : StreamKind)
  | notIterable (className : String)
  | noAttribute (className member : String)
  /- Callbacks -/
  | callbackUsed (label : String)
  | callbackGone
  | scripted (message : String)
  | noParkedCallback
  /- Arbiters and services -/
  | alreadyRan (phase : String)
  | unreachableRequest (kind : RequestKind)
  | unexpectedHandler (authority : String)
  | handlerNotUsed (authority : Value)
  /- Configurations -/
  | noConfiguration (directory : String)
  | manyConfigurations (paths : List String)
  | isDirectory (path : String)
  | badDocument (path : String)
  | rootNotMapping (path : String)
  | unknownField (section_ : String) (key : Value) (path : String)
  | notMapping (name path : String)
  | notList (name path : String)
  | notOneOf (name : String) (choices : List String) (value : Value)
  | notName (name : String)
  | notTextList (name : String)
  | notText (name : String) (index : Nat)
  | notDeviceList (name : String)
  | emptyDeviceId (name : String) (index : Nat)
  | repeatedDeviceId (name : String) (index : Nat) (id : String)
  | unknownDevice (name id : String)
  /- Documents -/
  | badCodePoint
  | hugeCodePoint
  | noSuchTruth (word : String)
  | noFirstCharacter
  | notStamp
  | hugeFactor
  | badCalendarPart (message : String)
  | offsetTooLarge (span : String)

namespace Failure

def kind : Failure → FailureKind
  | integerTextTooLong _ | integerTooLong | notInteger .. | notIntegerBytes _ | notFloat _
  | nanToInteger => .badValue
  | infinityToInteger => .overflow
  | noIntegerFrom _ => .badType
  | unknownChoice .. | notMember .. | foreignMember .. | unknownBackend .. => .badValue
  | relativeImport _ => .badType
  | wrongDeviceKind .. => .badValue
  | notIterable _ => .badType
  | noAttribute .. => .noAttribute
  | callbackUsed _ => .callbackUsed
  | callbackGone | scripted _ => .runtime
  | noParkedCallback => .badIndex
  | alreadyRan _ => .runtime
  | unreachableRequest _ => .unreachableRequest
  | unexpectedHandler _ => .badType
  | handlerNotUsed _ => .badValue
  | isDirectory _ => .isDirectory
  | noConfiguration _ | manyConfigurations _ | badDocument _ | rootNotMapping _ | unknownField ..
  | notMapping .. | notList .. | notOneOf .. | notName _ | notTextList _ | notText ..
  | notDeviceList _ | emptyDeviceId .. | repeatedDeviceId .. | unknownDevice .. => .configuration
  | badCodePoint => .badValue
  | hugeCodePoint | hugeFactor => .overflow
  | noFirstCharacter => .badIndex
  | notStamp => .noAttribute
  | noSuchTruth _ => .badKey
  | badCalendarPart _ | offsetTooLarge _ => .badValue

def digitLimitText : String :=
  String.join ["Exceeds the limit (", Decimal.ofNat IntegerText.digitLimit,
    " digits) for integer string conversion"]

def digitLimitAdvice : String := "; use sys.set_int_max_str_digits() to increase the limit"

def notIntegerText (base : Nat) (shown : List Char) : String :=
  String.join ["invalid literal for int() with base ", Decimal.ofNat base, ": ",
    String.ofList (shown.take 200)]

def labelOrAddress (label : String) : String := if label == "" then "<address>" else label

def indexed (name : String) (index : Nat) : String :=
  String.join [name, "[", Decimal.ofNat index, "]"]

def message : Failure → String
  | integerTextTooLong digits =>
    String.join [digitLimitText, ": value has ", Decimal.ofNat digits, " digits", digitLimitAdvice]
  | integerTooLong => digitLimitText ++ digitLimitAdvice
  | notInteger base text => notIntegerText base (Text.quotedChars text.toList)
  | notIntegerBytes data => notIntegerText 10 (Value.bytesLiteral (data.take 200)).toList
  | notFloat text => "could not convert string to float: " ++ Text.quoted text
  | nanToInteger => "cannot convert float NaN to integer"
  | infinityToInteger => "cannot convert float infinity to integer"
  | noIntegerFrom className =>
    String.join ["int() argument must be a string, a bytes-like object or a real number, not '",
      className, "'"]
  | unknownChoice field value choices =>
    String.join ["Invalid ", field, " ", value.literal, ". Expected one of: ",
      ", ".intercalate choices]
  | notMember enumeration value =>
    String.join [value.literal, " is not a valid ", enumeration]
  | foreignMember shown enumeration => String.join [shown, " is not a valid ", enumeration]
  | unknownBackend label name available hint =>
    String.join ["Unknown ", label, " '", name, "'. Available: ",
      if available.isEmpty then "none" else ", ".intercalate available,
      match hint with
      | none => ""
      | some h => String.join [" (import failed: ", h, ")"]]
  | relativeImport name =>
    "the 'package' argument is required to perform a relative import for " ++ Text.quoted name
  | wrongDeviceKind id kind expected =>
    String.join ["device ", Text.quoted id, " has type ", kind.name, ", expected ", expected.name]
  | notIterable className => String.join ["'", className, "' object is not iterable"]
  | noAttribute className member =>
    String.join ["'", className, "' object has no attribute '", member, "'"]
  | callbackUsed label =>
    String.join ["resolution callback ", labelOrAddress label, " already run"]
  | callbackGone => "resolution callback no longer held"
  | scripted text => text
  | noParkedCallback => "list index out of range"
  | alreadyRan phase => String.join ["arbiter already ran (state=", phase, ")"]
  | unreachableRequest kind => kind.name ++ " request must not reach device selection"
  | unexpectedHandler authority =>
    authority ++ ".__init__() got an unexpected keyword argument 'handler'"
  | handlerNotUsed authority =>
    "media request handler given but consent.type is " ++ authority.literal
  | noConfiguration directory => "No main_*.yaml found under " ++ directory
  | manyConfigurations paths =>
    "Expected exactly one main_*.yaml, found: " ++ ", ".intercalate paths
  | isDirectory path => "[Errno 21] Is a directory: " ++ Text.quoted path
  | badDocument path => String.join ["Invalid YAML in ", path, ": ..."]
  | rootNotMapping path => "YAML root must be a mapping: " ++ path
  | unknownField section_ key path =>
    String.join ["Unknown field ", section_, ".", key.display, " in ", path]
  | notMapping name path => String.join ["'", name, "' must be a mapping in ", path]
  | notList name path => String.join ["'", name, "' must be a list in ", path]
  | notOneOf name choices value =>
    String.join [name, " must be one of ", ", ".intercalate choices, ", got ", value.literal]
  | notName name => name ++ " must be a non-empty string"
  | notTextList name => name ++ " must be a list of strings"
  | notText name index => indexed name index ++ " must be a string"
  | notDeviceList name => name ++ " must be a list of devices"
  | emptyDeviceId name index => indexed name index ++ ".id must be a non-empty string"
  | repeatedDeviceId name index id =>
    String.join [indexed name index, ".id duplicates ", Text.quoted id]
  | unknownDevice name id => String.join [name, " ", Text.quoted id, " is not a configured device"]
  | badCodePoint => "chr() arg not in range(0x110000)"
  | hugeCodePoint => "Python int too large to convert to C int"
  | noSuchTruth word => Text.quoted word
  | noFirstCharacter => "string index out of range"
  | notStamp => "'NoneType' object has no attribute 'groupdict'"
  | hugeFactor => "int too large to convert to float"
  | badCalendarPart text => text
  | offsetTooLarge span =>
    String.join ["offset must be a timedelta strictly between -timedelta(hours=24) and ",
      "timedelta(hours=24), not ", span, "."]

end Failure

end CaptureArbiter
