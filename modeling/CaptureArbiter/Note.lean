/-!
# Notes for the log

Every part of the library writes notes of some level under its own name.
-/

namespace CaptureArbiter

inductive Level where
  | debug
  | info
  | warning
  | error
  | critical
  deriving DecidableEq, Repr

inductive Part where
  | registry
  | frames
  | catalog
  | screen
  | selector
  | policy
  | handler
  | arbiter
  | callback
  | service
  | commandLine
  deriving DecidableEq, Repr

structure Note where
  part : Part
  level : Level
  message : String
  deriving DecidableEq, Repr

namespace Level

def name : Level → String
  | .debug => "DEBUG"
  | .info => "INFO"
  | .warning => "WARNING"
  | .error => "ERROR"
  | .critical => "CRITICAL"

def rank : Level → Nat
  | .debug => 10
  | .info => 20
  | .warning => 30
  | .error => 40
  | .critical => 50

end Level

def Part.name : Part → String
  | .registry => "media_arbiter.registry"
  | .frames => "media_arbiter.frames"
  | .catalog => "media_arbiter.catalog.static"
  | .screen => "media_arbiter.screen"
  | .selector => "media_arbiter.selector"
  | .policy => "media_arbiter.consent.policy"
  | .handler => "media_arbiter.consent.handler"
  | .arbiter => "media_arbiter.arbiter"
  | .callback => "media_arbiter.callback"
  | .service => "media_arbiter.runtime"
  | .commandLine => "root"

def Note.isShownAt (level : Level) (note : Note) : Bool := level.rank ≤ note.level.rank

/-- The line of a note, without the time. -/
def Note.line (note : Note) : String :=
  String.join [note.part.name, " [", note.level.name, "] ", note.message]

end CaptureArbiter
