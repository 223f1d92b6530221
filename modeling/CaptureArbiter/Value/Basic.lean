import CaptureArbiter.Number.IntegerText
import CaptureArbiter.Number.Shortest
import CaptureArbiter.Text.Quoted
import CaptureArbiter.Value.Stamp

/-!
# Plain data

Requests and configurations arrive as plain data. A value has a truth value, the name of its class,
a literal (how messages show it) and a display text (which is the text itself for a text). Mappings
keep their entries in order of first insertion, and a key that is written again keeps its place.
-/

namespace CaptureArbiter

/-- A plain value. A `loop` is a reference to a container that it is inside of. It can be shown, but
not looked into: `inside` has what stands between the brackets of that container while none, one,
two and more of the containers around the reference are being shown, from the innermost on. When all
of them are, three dots stand there. -/
inductive Value where
  | null
  | bool (b : Bool)
  | int (n : Int)
  | float (x : Binary64)
  | text (s : String)
  | list (items : List Value)
  | map (entries : List (Value × Value))
  | stamp (t : Stamp)
  | bytes (data : List UInt8)
  | set (members : List Value)
  | pair (first second : Value)
  | loop (ofMap : Bool) (inside : List String)

namespace Value

instance : Inhabited Value := ⟨.null⟩

/-- Zero, the empty text, empty containers and null count as false. -/
def isTruthy : Value → Bool
  | .null => false
  | .bool b => b
  | .int n => n != 0
  | .float x => x.isNonzero
  | .text s => s != ""
  | .list items => !items.isEmpty
  | .map entries => !entries.isEmpty
  | .stamp _ => true
  | .bytes data => !data.isEmpty
  | .set members => !members.isEmpty
  | .pair _ _ => true
  | .loop .. => true

def className : Value → String
  | .null => "NoneType"
  | .bool _ => "bool"
  | .int _ => "int"
  | .float _ => "float"
  | .text _ => "str"
  | .list _ => "list"
  | .map _ => "dict"
  | .stamp (.date _) => "datetime.date"
  | .stamp (.moment ..) => "datetime.datetime"
  | .bytes _ => "bytes"
  | .set _ => "set"
  | .pair _ _ => "tuple"
  | .loop ofMap _ => if ofMap then "dict" else "list"

def escapeByte (quote : Char) (b : UInt8) : List Char :=
  let c := Char.ofNat b.toNat
  if c == quote || c == '\\' then ['\\', c]
  else if c == '\t' then ['\\', 't']
  else if c == '\n' then ['\\', 'n']
  else if c == '\r' then ['\\', 'r']
  else if 32 ≤ b.toNat && b.toNat < 127 then [c]
  else '\\' :: 'x' :: Text.hexDigits 2 b.toNat

def bytesLiteral (data : List UInt8) : String :=
  let quote := Text.quoteFor (data.map fun b => Char.ofNat b.toNat)
  String.ofList ('b' :: quote :: data.flatMap (escapeByte quote) ++ [quote])

def bracketed (left : String) (members : List String) (right : String) : String :=
  String.join [left, ", ".intercalate members, right]

mutual

/-- The literal of a value inside so many containers that are being shown as well. -/
def literalAt (depth : Nat) : Value → String
  | .null => "None"
  | .bool b => if b then "True" else "False"
  | .int n => Decimal.ofInt n
  | .float x => Shortest.text Shortest.Layout.standard x
  | .text s => Text.quoted s
  | .list items => bracketed "[" (literalsAt (depth + 1) items) "]"
  | .map entries => bracketed "\x7b" (entryLiteralsAt (depth + 1) entries) "\x7d"
  | .stamp t => t.literal
  | .bytes data => bytesLiteral data
  | .set [] => "set()"
  | .set (m :: ms) =>
    bracketed "\x7b" (literalAt (depth + 1) m :: literalsAt (depth + 1) ms) "\x7d"
  | .pair a b => bracketed "(" [literalAt (depth + 1) a, literalAt (depth + 1) b] ")"
  | .loop ofMap inside =>
    let shown := inside.getD depth "..."
    if ofMap then bracketed "\x7b" [shown] "\x7d" else bracketed "[" [shown] "]"

def literalsAt (depth : Nat) : List Value → List String
  | [] => []
  | v :: vs => literalAt depth v :: literalsAt depth vs

def entryLiteralsAt (depth : Nat) : List (Value × Value) → List String
  | [] => []
  | (k, v) :: es =>
    String.join [literalAt depth k, ": ", literalAt depth v] :: entryLiteralsAt depth es

end

def literal (v : Value) : String := literalAt 0 v

/-- The display text of a value: a text itself, a stamp in ISO form, else the literal. -/
def display : Value → String
  | .text s => s
  | .stamp t => t.iso
  | v => literal v

mutual

/-- Are all integers inside a value short enough to be written? -/
def isWritable : Value → Bool
  | .int n => (IntegerText.write? n).isSome
  | .list items => areWritable items
  | .map entries => areEntriesWritable entries
  | .set members => areWritable members
  | .pair a b => isWritable a && isWritable b
  | _ => true

def areWritable : List Value → Bool
  | [] => true
  | v :: vs => isWritable v && areWritable vs

def areEntriesWritable : List (Value × Value) → Bool
  | [] => true
  | (k, v) :: es => isWritable k && isWritable v && areEntriesWritable es

end

/-- The integer that a value equals, if it is a number that equals one. -/
def wholeNumber? : Value → Option Int
  | .bool b => some (if b then 1 else 0)
  | .int n => some n
  | .float x => x.exactInt?
  | _ => none

/-- Are two values the same key? Numbers are compared by value whatever their class, and
not-a-number is the same key as itself. Containers are no keys. -/
def sameKey (a b : Value) : Bool :=
  match a.wholeNumber?, b.wholeNumber? with
  | some m, some n => m == n
  | none, none =>
    match a, b with
    | .null, .null => true
    | .float .nan, .float .nan => true
    | .float x, .float y => x.equals y
    | .text s, .text t => s == t
    | .stamp s, .stamp t => s.equals t
    | .bytes s, .bytes t => s == t
    | _, _ => false
  | _, _ => false

/-- Writes an entry: the value of the same key is replaced in place, a new key goes to the end. -/
def putEntry (entries : List (Value × Value)) (key value : Value) : List (Value × Value) :=
  if entries.any (sameKey key ·.1) then
    entries.map fun e => if sameKey key e.1 then (e.1, value) else e
  else entries ++ [(key, value)]

def lookup? (entries : List (Value × Value)) (name : String) : Option Value :=
  (entries.find? fun e => sameKey (.text name) e.1).map (·.2)

/-- The value of a text key, null if there is none. -/
def entryOrNull (entries : List (Value × Value)) (name : String) : Value :=
  (lookup? entries name).getD .null

/-- The value itself if it counts as true, else the given one. -/
def orElse (v other : Value) : Value := if v.isTruthy then v else other

theorem sameKey_text (s t : String) : sameKey (.text s) (.text t) = (s == t) := rfl

theorem lookup?_nil (name : String) : lookup? [] name = none := rfl

theorem display_text (s : String) : display (.text s) = s := rfl

end Value

end CaptureArbiter
