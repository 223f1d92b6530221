import CaptureArbiter.Number.Decimal

/-!
# Dates and moments

A configuration may hold a calendar date or a moment, with or without an offset from universal time.
They are data only: they are compared as keys and written, either as ISO text or as a literal.
-/

namespace CaptureArbiter

/-- A day of the proleptic Gregorian calendar. -/
structure Date where
  year : Nat
  month : Nat
  day : Nat
  deriving DecidableEq, Repr

/-- A day, or a moment of it with an optional offset from universal time in minutes. -/
inductive Stamp where
  | date (day : Date)
  | moment (day : Date) (hour minute second micro : Nat) (offset : Option Int)
  deriving DecidableEq, Repr

namespace Date

/-- Every fourth year is a leap year, of the full centuries every fourth. -/
def isLeapYear (year : Nat) : Bool := year % 4 == 0 && (year % 100 != 0 || year % 400 == 0)

/-- The number of days of a month; 0 if there is no such month. -/
def daysInMonth (year month : Nat) : Nat :=
  match month with
  | 1 | 3 | 5 | 7 | 8 | 10 | 12 => 31
  | 4 | 6 | 9 | 11 => 30
  | 2 => if isLeapYear year then 29 else 28
  | _ => 0

/-- Days from the first day of year 1 to this day. -/
def ordinal (d : Date) : Nat :=
  let y := d.year - 1
  let months := (List.range (d.month - 1)).map fun m => daysInMonth d.year (m + 1)
  y * 365 + y / 4 - y / 100 + y / 400 + months.foldl (· + ·) 0 + d.day

end Date

namespace Stamp

def padded (width n : Nat) : String :=
  let digits := Decimal.natChars n
  String.ofList (List.replicate (width - digits.length) '0' ++ digits)

def isoDate (d : Date) : String :=
  String.join [padded 4 d.year, "-", padded 2 d.month, "-", padded 2 d.day]

def isoOffset (minutes : Int) : String :=
  let n := minutes.natAbs
  String.join [if minutes < 0 then "-" else "+", padded 2 (n / 60), ":", padded 2 (n % 60)]

/-- The ISO text, with a blank between date and time. Microseconds are written if there are any. -/
def iso : Stamp → String
  | .date d => isoDate d
  | .moment d h m s micro offset =>
    String.join [isoDate d, " ", padded 2 h, ":", padded 2 m, ":", padded 2 s,
      if micro == 0 then "" else "." ++ padded 6 micro,
      match offset with
      | none => ""
      | some minutes => isoOffset minutes]

/-- The literal of a span of minutes, in whole days and the seconds beyond them. -/
def spanLiteral (minutes : Int) : String :=
  let days := minutes.fdiv 1440
  let seconds := minutes.fmod 1440 * 60
  let parts := (if days == 0 then [] else ["days=" ++ Decimal.ofInt days]) ++
    (if seconds == 0 then [] else ["seconds=" ++ Decimal.ofInt seconds])
  String.join ["datetime.timedelta(", if parts.isEmpty then "0" else ", ".intercalate parts, ")"]

def offsetLiteral (minutes : Int) : String :=
  if minutes == 0 then "datetime.timezone.utc"
  else String.join ["datetime.timezone(", spanLiteral minutes, ")"]

/-- The literal, which leaves out trailing zero parts of the time below minutes. -/
def literal : Stamp → String
  | .date d =>
    String.join ["datetime.date(",
      ", ".intercalate [Decimal.ofNat d.year, Decimal.ofNat d.month, Decimal.ofNat d.day], ")"]
  | .moment d h m s micro offset =>
    let head := [d.year, d.month, d.day, h, m]
    let tail := if micro != 0 then [s, micro] else if s != 0 then [s] else []
    let zone := match offset with
      | none => []
      | some minutes => ["tzinfo=" ++ offsetLiteral minutes]
    String.join ["datetime.datetime(",
      ", ".intercalate ((head ++ tail).map Decimal.ofNat ++ zone), ")"]

/-- The microseconds from the start of the calendar to a moment, in universal time. -/
def instant (d : Date) (h m s micro : Nat) (offset : Int) : Int :=
  ((d.ordinal * 1440 + h * 60 + m : Int) - offset) * 60000000 + s * 1000000 + micro

/-- Are two stamps the same key? Moments with an offset are compared as instants. -/
def equals : Stamp → Stamp → Bool
  | .moment d h m s u (some o), .moment d' h' m' s' u' (some o') =>
    instant d h m s u o == instant d' h' m' s' u' o'
  | a, b => a == b

end Stamp

end CaptureArbiter
