import CaptureArbiter.Text.LetterCase
import CaptureArbiter.Value.Reading

/-!
# Capture requests

A frame of a process asks for audio, for video, or for both. A request is read from a mapping of
plain values, in which the names of enumerations may be written in any case, with blanks around them
and with hyphens for underscores.
-/

namespace CaptureArbiter

structure Request where
  processId : Int := 0
  frameId : Int := 0
  audio : StreamKind := .noService
  video : StreamKind := .noService
  kind : RequestKind := .generateStream
  audioDeviceId : String := ""
  videoDeviceId : String := ""
  securityOrigin : String := ""
  deriving DecidableEq, Repr

namespace Request

def isScreenCapture (r : Request) : Bool := r.audio.isScreenAudio || r.video.isScreenVideo

/-- An open for a plug-in asks for both devices, so that the user is asked once. -/
def wantsMicrophone (r : Request) : Bool := r.audio == .deviceAudio || r.kind == .openPepper

/-- The same for the camera. -/
def wantsCamera (r : Request) : Bool := r.video == .deviceVideo || r.kind == .openPepper

/-- The spelling of a name that is compared with the names of an enumeration. -/
def canonicalName (s : String) : String :=
  String.ofList ((Text.upper (Text.trim s)).toList.map fun c => if c == '-' then '_' else c)

/-- The member of an enumeration that a field names; `missing` if the field is null or empty. -/
def readMember {α : Type} [Named α] (missing : α) (field : String) (v : Value) :
    Except Failure α :=
  match v with
  | .null => .ok missing
  | .text "" => .ok missing
  | v => do
    match Named.ofName? (canonicalName (← v.toText)) with
    | some a => return a
    | none => throw (.unknownChoice field v ((Named.members : List α).map Named.name))

/-- Reads a request. The fields are converted in order, so the first bad one is reported. -/
def ofMapping (fields : List (Value × Value)) : Except Failure Request := do
  let get := Value.entryOrNull fields
  let id := fun name => ((Value.lookup? fields name).getD (.int 0)).toInt
  let processId ← id "render_process_id"
  let frameId ← id "render_frame_id"
  let audio ← readMember .noService "audio_type" (get "audio_type")
  let video ← readMember .noService "video_type" (get "video_type")
  let kindField := get "request_type"
  let kind ← if kindField.isTruthy then readMember .generateStream "request_type" kindField
    else pure .generateStream
  let audioDeviceId ← (get "requested_audio_device_id").toTextOrEmpty
  let videoDeviceId ← (get "requested_video_device_id").toTextOrEmpty
  let securityOrigin ← (get "security_origin").toTextOrEmpty
  return { processId, frameId, audio, video, kind, audioDeviceId, videoDeviceId, securityOrigin }

/-- Reads a request from a plain value, which has to be a mapping. -/
def ofValue : Value → Except Failure Request
  | .map fields => ofMapping fields
  | v => .error (.noAttribute v.className "get")

theorem readMember_null {α : Type} [Named α] (missing : α) (field : String) :
    readMember missing field .null = .ok missing := rfl

end Request

end CaptureArbiter
