/-!
# Streams, devices and outcomes

The vocabulary of the whole library: what kinds of streams a request can ask for, what kinds of
requests there are, how a request can end, and what a granted device is. Each of the three
enumerations has fixed names and is read back from exactly these.
-/

namespace CaptureArbiter

/-- An enumeration whose members have names. -/
class Named (α : Type) where
  title : String
  members : List α
  name : α → String

def Named.ofName? {α : Type} [Named α] (name : String) : Option α :=
  (Named.members : List α).find? fun a => Named.name a == name

inductive StreamKind where
  | noService
  | deviceAudio
  | deviceVideo
  | tabAudio
  | tabVideo
  | desktopAudio
  | desktopVideo
  deriving DecidableEq, Repr

inductive RequestKind where
  | generateStream
  | openPepper
  | deviceAccess
  | deviceUpdate
  deriving DecidableEq, Repr

inductive Outcome where
  | ok
  | noHardware
  | permissionDenied
  | failedDueToShutdown
  deriving DecidableEq, Repr

structure Device where
  kind : StreamKind
  id : String := ""
  name : String := ""
  deriving DecidableEq, Repr

namespace StreamKind

def name : StreamKind → String
  | .noService => "NO_SERVICE"
  | .deviceAudio => "DEVICE_AUDIO_CAPTURE"
  | .deviceVideo => "DEVICE_VIDEO_CAPTURE"
  | .tabAudio => "GUM_TAB_AUDIO_CAPTURE"
  | .tabVideo => "GUM_TAB_VIDEO_CAPTURE"
  | .desktopAudio => "GUM_DESKTOP_AUDIO_CAPTURE"
  | .desktopVideo => "GUM_DESKTOP_VIDEO_CAPTURE"

instance : Named StreamKind where
  title := "MediaStreamType"
  members := [.noService, .deviceAudio, .deviceVideo, .tabAudio, .tabVideo, .desktopAudio,
    .desktopVideo]
  name := name

def isScreenAudio : StreamKind → Bool
  | .tabAudio | .desktopAudio => true
  | _ => false

def isScreenVideo : StreamKind → Bool
  | .tabVideo | .desktopVideo => true
  | _ => false

theorem ofName?_name (k : StreamKind) : Named.ofName? k.name = some k := by
  cases k <;> decide +kernel

end StreamKind

namespace RequestKind

def name : RequestKind → String
  | .generateStream => "GENERATE_STREAM"
  | .openPepper => "OPEN_DEVICE_PEPPER_ONLY"
  | .deviceAccess => "DEVICE_ACCESS"
  | .deviceUpdate => "DEVICE_UPDATE"

instance : Named RequestKind where
  title := "RequestType"
  members := [.generateStream, .openPepper, .deviceAccess, .deviceUpdate]
  name := name

theorem ofName?_name (k : RequestKind) : Named.ofName? k.name = some k := by
  cases k <;> decide +kernel

end RequestKind

namespace Outcome

def name : Outcome → String
  | .ok => "OK"
  | .noHardware => "NO_HARDWARE"
  | .permissionDenied => "PERMISSION_DENIED"
  | .failedDueToShutdown => "FAILED_DUE_TO_SHUTDOWN"

instance : Named Outcome where
  title := "ResultCode"
  members := [.ok, .noHardware, .permissionDenied, .failedDueToShutdown]
  name := name

theorem ofName?_name (o : Outcome) : Named.ofName? o.name = some o := by
  cases o <;> decide +kernel

end Outcome

end CaptureArbiter
