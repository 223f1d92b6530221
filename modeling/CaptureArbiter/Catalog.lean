import CaptureArbiter.Note
import CaptureArbiter.Value.Reading

/-!
# The catalog of hardware devices

A catalog lists the attached microphones and cameras in an order of its own, which is never changed:
the first device is the first listed one. It is made from configured entries and later replaced list
by list; a replacement with a device of the wrong kind changes nothing.
-/

namespace CaptureArbiter

/-- The attached devices, and the ids of those that are preferred. -/
structure Catalog where
  audio : List Device := []
  video : List Device := []
  defaultAudioId : String := ""
  defaultVideoId : String := ""
  deriving DecidableEq, Repr

/-- The configured description of a catalog, not yet read. -/
structure CatalogBlock where
  backend : Value := .text "static"
  audioDevices : Value := .list []
  videoDevices : Value := .list []
  defaultAudioId : Value := .text ""
  defaultVideoId : Value := .text ""

namespace Catalog

/-- The members that a value has when it is walked through; values that count as false have none. -/
def members (v : Value) : Except Failure (List Value) :=
  if !v.isTruthy then .ok []
  else match v with
    | .list items => .ok items
    | .map entries => .ok (entries.map (·.1))
    | .text s => .ok (s.toList.map fun c => .text (String.singleton c))
    | .bytes data => .ok (data.map fun b => .int b.toNat)
    | .set items => .ok items
    | .pair a b => .ok [a, b]
    | v => .error (.notIterable v.className)

/-- The device that an entry describes. Its name is its id unless another is given. -/
def deviceOfEntry (kind : StreamKind) : Value → Except Failure Device
  | .map fields => do
    let id ← (Value.entryOrNull fields "id").toTextOrEmpty
    let name ← ((Value.entryOrNull fields "name").orElse (.text id)).toText
    return { kind, id, name }
  | v => .error (.noAttribute v.className "get")

def devicesOfEntries (kind : StreamKind) (entries : Value) : Except Failure (List Device) := do
  (← members entries).mapM (deviceOfEntry kind)

def ofBlock (block : CatalogBlock) : Except Failure Catalog := do
  let audio ← devicesOfEntries .deviceAudio block.audioDevices
  let video ← devicesOfEntries .deviceVideo block.videoDevices
  let defaultAudioId ← block.defaultAudioId.toTextOrEmpty
  let defaultVideoId ← block.defaultVideoId.toTextOrEmpty
  return { audio, video, defaultAudioId, defaultVideoId }

/-- The first device of an id; the empty id belongs to no device. -/
def findById (devices : List Device) (id : String) : Option Device :=
  if id == "" then none else devices.find? (·.id == id)

def findAudio (c : Catalog) (id : String) : Option Device := findById c.audio id

def findVideo (c : Catalog) (id : String) : Option Device := findById c.video id

def firstAudio (c : Catalog) : Option Device := c.audio.head?

def firstVideo (c : Catalog) : Option Device := c.video.head?

def hasAny (c : Catalog) : Bool := !c.audio.isEmpty || !c.video.isEmpty

/-- The preferred microphone while it is attached, else the first. -/
def defaultAudio (c : Catalog) : Option Device :=
  (c.findAudio c.defaultAudioId).or c.firstAudio

/-- The preferred camera while it is attached, else the first. -/
def defaultVideo (c : Catalog) : Option Device :=
  (c.findVideo c.defaultVideoId).or c.firstVideo

/-- The default device of each needed kind, the microphone first. -/
def defaults (c : Catalog) (needAudio needVideo : Bool) : List Device :=
  (if needAudio then c.defaultAudio.toList else []) ++
    (if needVideo then c.defaultVideo.toList else [])

def checkKind (expected : StreamKind) (devices : List Device) : Except Failure (List Device) :=
  match devices.find? (·.kind != expected) with
  | some d => .error (.wrongDeviceKind d.id d.kind expected)
  | none => .ok devices

def setAudio (c : Catalog) (devices : List Device) : Except Failure Catalog := do
  return { c with audio := ← checkKind .deviceAudio devices }

def setVideo (c : Catalog) (devices : List Device) : Except Failure Catalog := do
  return { c with video := ← checkKind .deviceVideo devices }

def changedNote (what : String) (devices : List Device) : Note :=
  ⟨.catalog, .info, String.join [what, " capture devices changed: ",
    Decimal.ofNat devices.length, " available"]⟩

theorem findById_empty (devices : List Device) : findById devices "" = none := rfl

theorem mem_of_findById {devices : List Device} {id : String} {d : Device}
    (h : findById devices id = some d) : d ∈ devices := by
  unfold findById at h
  split at h
  · simp at h
  · exact List.mem_of_find?_eq_some h

theorem checkKind_eq_ok {expected : StreamKind} {devices checked : List Device}
    (h : checkKind expected devices = .ok checked) :
    checked = devices ∧ ∀ d ∈ devices, d.kind = expected := by
  unfold checkKind at h
  split at h
  · simp at h
  · rename_i hnone
    simp only [Except.ok.injEq] at h
    refine ⟨h.symm, fun d hd => ?_⟩
    simpa using List.find?_eq_none.1 hnone d hd

end Catalog

end CaptureArbiter
