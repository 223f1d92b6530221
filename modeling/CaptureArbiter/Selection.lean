import CaptureArbiter.Catalog
import CaptureArbiter.Request

/-!
# Choosing devices for an accepted request

A stream gets the devices it named, as far as they are attached, and defaults for what is still
needed; plain device access gets the defaults; a plug-in gets one device, the named one or the
first. Updates never ask for devices.
-/

namespace CaptureArbiter.Selection

def pepperDevice (c : Catalog) (r : Request) : Option Device :=
  if r.audio == .deviceAudio then (c.findAudio r.audioDeviceId).or c.firstAudio
  else if r.video == .deviceVideo then (c.findVideo r.videoDeviceId).or c.firstVideo
  else none

def streamDevices (c : Catalog) (r : Request) (mic cam : Bool) : List Device :=
  let audio := c.findAudio r.audioDeviceId
  let video := c.findVideo r.videoDeviceId
  audio.toList ++ video.toList ++ c.defaults (mic && audio.isNone) (cam && video.isNone)

def choose (c : Catalog) (r : Request) (mic cam : Bool) : Except Failure (List Device) :=
  if !(mic || cam) then .ok []
  else match r.kind with
    | .openPepper => .ok (pepperDevice c r).toList
    | .generateStream => .ok (streamDevices c r mic cam)
    | .deviceAccess => .ok (c.defaults mic cam)
    | .deviceUpdate => .error (.unreachableRequest r.kind)

def fallbackNote (what id : String) : Note :=
  ⟨.selector, .debug, String.join ["Pepper ", what, " device ", Text.quoted id,
    " not found, using first available"]⟩

def notes (c : Catalog) (r : Request) (mic cam : Bool) : List Note :=
  if (mic || cam) && r.kind == .openPepper then
    if r.audio == .deviceAudio then
      if (c.findAudio r.audioDeviceId).isNone then [fallbackNote "audio" r.audioDeviceId] else []
    else if r.video == .deviceVideo then
      if (c.findVideo r.videoDeviceId).isNone then [fallbackNote "video" r.videoDeviceId] else []
    else []
  else []

theorem choose_nothing (c : Catalog) (r : Request) : choose c r false false = .ok [] := rfl

end CaptureArbiter.Selection
