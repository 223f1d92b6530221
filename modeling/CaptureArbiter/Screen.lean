import CaptureArbiter.DesktopId
import CaptureArbiter.Note
import CaptureArbiter.Request

/-!
# Screen capture

A request for a tab or for the desktop is granted from the request alone: the sound, then the
picture. A desktop picture comes from the source that the request names, or from the whole desktop
if it names none.
-/

namespace CaptureArbiter.Screen

def desktopTarget (requested : String) : Except Failure String :=
  if requested == "" then .ok DesktopId.fullDesktop.toText
  else do return (← DesktopId.parse requested).toText

def audioDevices (r : Request) : List Device :=
  match r.audio with
  | .tabAudio => [⟨.tabAudio, "", ""⟩]
  | .desktopAudio => [⟨.desktopAudio, "loopback", "System Audio"⟩]
  | _ => []

def videoDevices (r : Request) : Except Failure (List Device) :=
  match r.video with
  | .tabVideo => .ok [⟨.tabVideo, "", ""⟩]
  | .desktopVideo => do return [⟨.desktopVideo, ← desktopTarget r.videoDeviceId, "Screen"⟩]
  | _ => .ok []

/-- Tab devices come before desktop devices, and sound before picture of the same source. -/
def arrange (audio video : List Device) : List Device :=
  let ofTab := fun d : Device => d.kind == .tabAudio || d.kind == .tabVideo
  let all := audio ++ video
  all.filter ofTab ++ all.filter (!ofTab ·)

def grant (r : Request) : Except Failure (List Device) := do
  return arrange (audioDevices r) (← videoDevices r)

/-- A request without screen devices finds no hardware. -/
def outcome (devices : List Device) : Outcome := if devices.isEmpty then .noHardware else .ok

def notes (r : Request) : List Note :=
  if r.video == .desktopVideo && r.videoDeviceId != "" then
    match DesktopId.parse r.videoDeviceId with
    | .ok .none =>
      [⟨.screen, .warning, "Unparsable desktop capture id " ++ Text.quoted r.videoDeviceId⟩]
    | _ => []
  else []

end CaptureArbiter.Screen
