import CaptureArbiter.Number.FloatText
import CaptureArbiter.Text.Split
import CaptureArbiter.Yaml.Cursor

/-!
# What plain scalars stand for

A plain scalar without a tag is a truth value, a number, a null, a date or a moment if it is spelled
like one, and a text otherwise. `1e3` is a text, since a number with a fraction needs a point.
-/

namespace CaptureArbiter.Yaml

def schemaTag (name : String) : String := "tag:yaml.org,2002:" ++ name

namespace Scalar

def truthWords : List (String × Bool) :=
  [("yes", true), ("no", false), ("true", true), ("false", false), ("on", true), ("off", false)]

/-- A word in lower case, in upper case, or with a capital. -/
def isWordSpelling (word cs : List Char) : Bool :=
  cs == word || cs == word.map Char.toUpper || match word with
    | [] => false
    | c :: rest => cs == c.toUpper :: rest

def isTruth (cs : List Char) : Bool := truthWords.any fun w => isWordSpelling w.1.toList cs

def isNull (cs : List Char) : Bool :=
  cs.isEmpty || cs == ['~'] || isWordSpelling "null".toList cs

def isDigitOrLow (c : Char) : Bool := c.isDigit || c == '_'

def dropSign : List Char → List Char
  | '-' :: cs => cs
  | '+' :: cs => cs
  | cs => cs

/-- Nothing, or an exponent with a sign. -/
def isExponent : List Char → Bool
  | [] => true
  | e :: sign :: digits =>
    (e == 'e' || e == 'E') && (sign == '-' || sign == '+') && !digits.isEmpty &&
      digits.all Char.isDigit
  | _ => false

/-- The parts after the first colon of a number of base sixty: one or two digits below sixty. -/
def isSixtieth : List Char → Bool
  | [d] => d.isDigit
  | [t, d] => d.isDigit && '0' ≤ t && t ≤ '5'
  | _ => false

/-- Is a digit followed by digits and underscores? -/
def isDigitRun : List Char → Bool
  | d :: ds => d.isDigit && ds.all isDigitOrLow
  | [] => false

/-- A number of base sixty whose last part may end in a fraction. -/
def isSexagesimalFraction (cs : List Char) : Bool :=
  let whole := cs.takeWhile (· != '.')
  let fraction := cs.dropWhile (· != '.')
  match Text.splitAt ':' whole with
  | first :: second :: parts =>
    isDigitRun first && (second :: parts).all isSixtieth && !fraction.isEmpty &&
      (fraction.drop 1).all isDigitOrLow
  | _ => false

def isDecimalFraction (cs : List Char) : Bool :=
  let body := dropSign cs
  let whole := body.takeWhile isDigitOrLow
  match body.dropWhile isDigitOrLow with
  | '.' :: rest => isDigitRun whole && isExponent (rest.dropWhile isDigitOrLow)
  | _ => false

/-- A fraction that begins with its point, which takes no sign. -/
def isBareFraction : List Char → Bool
  | '.' :: d :: rest => d.isDigit && isExponent (rest.dropWhile isDigitOrLow)
  | _ => false

/-- A word after a point, in lower case, in upper case, or with a capital. -/
def isDottedWord (spellings : List String) : List Char → Bool
  | '.' :: cs => spellings.any (·.toList == cs)
  | _ => false

def isFloat (cs : List Char) : Bool :=
  isDecimalFraction cs || isBareFraction cs || isSexagesimalFraction (dropSign cs) ||
    isDottedWord ["inf", "Inf", "INF"] (dropSign cs) || isDottedWord ["nan", "NaN", "NAN"] cs

/-- A spelling of an integer: binary, octal with a zero in front, decimal, hexadecimal, or of base
sixty. -/
def isInteger (cs : List Char) : Bool :=
  match dropSign cs with
  | '0' :: 'b' :: ds => !ds.isEmpty && ds.all fun c => c == '0' || c == '1' || c == '_'
  | '0' :: 'x' :: ds => !ds.isEmpty && ds.all fun c => isHexChar c || c == '_'
  | '0' :: ds => ds.all fun c => ('0' ≤ c && c ≤ '7') || c == '_'
  | body =>
    match Text.splitAt ':' body with
    | first :: parts => isDigitRun first && parts.all isSixtieth
    | [] => false

/-- The parts of a date or moment, as they are written. -/
structure StampParts where
  year : List Char
  month : List Char
  day : List Char
  time : Option (List Char × List Char × List Char) := none
  fraction : List Char := []
  /-- Minus or plus, hours, minutes. -/
  offset : Option (Bool × List Char × List Char) := none
  /-- Is the moment given in universal time? -/
  isUniversal : Bool := false

/-- Cuts digits off, between `least` and `most` of them. -/
def cutDigits? (least most : Nat) (cs : List Char) : Option (List Char × List Char) :=
  let ds := (cs.takeWhile Char.isDigit).take most
  if ds.length < least then none else some (ds, cs.drop ds.length)

def cutChar? (c : Char) : List Char → Option (List Char)
  | d :: cs => if d == c then some cs else none
  | [] => none

/-- The offset that ends a moment: nothing, a `Z`, or a sign with hours and perhaps minutes. -/
def readOffset? (p : StampParts) (cs : List Char) : Option StampParts :=
  if cs.isEmpty then some p
  else match cs.dropWhile isSpace with
    | ['Z'] => some { p with isUniversal := true }
    | sign :: rest =>
      if sign == '-' || sign == '+' then do
        let (hours, rest) ← cutDigits? 1 2 rest
        match rest with
        | [] => some { p with offset := some (sign == '-', hours, []) }
        | ':' :: rest => do
          let (minutes, rest) ← cutDigits? 2 2 rest
          if rest.isEmpty then some { p with offset := some (sign == '-', hours, minutes) }
          else none
        | _ => none
      else none
    | [] => none

/-- The time of a moment, after the blanks or the `T` before it. -/
def readTime? (p : StampParts) (cs : List Char) : Option StampParts := do
  let (hour, cs) ← cutDigits? 1 2 cs
  let cs ← cutChar? ':' cs
  let (minute, cs) ← cutDigits? 2 2 cs
  let cs ← cutChar? ':' cs
  let (second, cs) ← cutDigits? 2 2 cs
  let p := { p with time := some (hour, minute, second) }
  match cs with
  | '.' :: cs =>
    readOffset? { p with fraction := cs.takeWhile Char.isDigit } (cs.dropWhile Char.isDigit)
  | cs => readOffset? p cs

def readParts? (cs : List Char) : Option StampParts := do
  let (year, cs) ← cutDigits? 4 4 cs
  let cs ← cutChar? '-' cs
  let (month, cs) ← cutDigits? 1 2 cs
  let cs ← cutChar? '-' cs
  let (day, cs) ← cutDigits? 1 2 cs
  let p : StampParts := { year, month, day }
  match cs with
  | [] => some p
  | 'T' :: cs => readTime? p cs
  | 't' :: cs => readTime? p cs
  | c :: cs => if isSpace c then readTime? p (cs.dropWhile isSpace) else none

/-- A spelling of a date or moment. A date alone needs two digits for month and day. -/
def isStamp (cs : List Char) : Bool :=
  match readParts? cs with
  | some p => p.time.isSome || (p.month.length == 2 && p.day.length == 2)
  | none => false

def dropLineFeed (cs : List Char) : List Char :=
  if cs.getLast? == some '\n' then cs.dropLast else cs

def plainName (text : String) : String :=
  let cs := dropLineFeed text.toList
  if text != "" && isTruth cs then "bool"
  else if isFloat cs then "float"
  else if isInteger cs then "int"
  else if cs == ['<', '<'] then "merge"
  else if text == "" || (!cs.isEmpty && isNull cs) then "null"
  else if isStamp cs then "timestamp"
  else if cs == ['='] then "value"
  else if cs == ['!'] || cs == ['&'] || cs == ['*'] then "yaml"
  else "str"

def defaultTag (isPlain : Bool) (text : String) : String :=
  schemaTag (if isPlain then plainName text else "str")

end Scalar

end CaptureArbiter.Yaml
