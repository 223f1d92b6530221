import CaptureArbiter.Settings.Check

/-!
# Settings from a document

A configuration document is a mapping of three sections, each with known fields only; a section that
is missing or null has default values. Devices are listed as mappings or, in short, as their ids.
The first fault in the order root, runtime, catalog, consent is reported.
-/

namespace CaptureArbiter.Settings

/-- The entries of the root; a root that counts as false is an empty mapping. -/
def rootEntries (path : String) (document : Value) : Except Failure (List (Value × Value)) :=
  match document.orElse (.map []) with
  | .map entries => .ok entries
  | _ => .error (.rootNotMapping path)

def checkKeys (known : List String) (section_ path : String) :
    List (Value × Value) → Except Failure Unit
  | [] => .ok ()
  | (k, _) :: es =>
    if known.any fun name => Value.sameKey (.text name) k then checkKeys known section_ path es
    else .error (k.checked (.unknownField section_ k path))

def sectionEntries (path name : String) (root : List (Value × Value)) :
    Except Failure (List (Value × Value)) :=
  match Value.entryOrNull root name with
  | .null => .ok []
  | .map entries => .ok entries
  | _ => .error (.notMapping name path)

/-- The value of a field, or its default if the field is missing. -/
def field (entries : List (Value × Value)) (name : String) (default : Value) : Value :=
  (Value.lookup? entries name).getD default

def readDevice (section_ path : String) (index : Nat) (entry : Value) : Except Failure Value := do
  let name := Failure.indexed section_ index
  match entry with
  | .text s => return deviceEntry s s
  | .map fields =>
    checkKeys ["id", "name"] name path fields
    let id := Value.entryOrNull fields "id"
    let idText ← id.toTextOrEmpty
    return deviceEntry idText (← ((Value.entryOrNull fields "name").orElse id).toTextOrEmpty)
  | _ => throw (.notMapping name path)

def readDevicesFrom (section_ path : String) (index : Nat) :
    List Value → Except Failure (List Value)
  | [] => .ok []
  | entry :: entries => do
    let device ← readDevice section_ path index entry
    return device :: (← readDevicesFrom section_ path (index + 1) entries)

def readDevices (section_ path : String) : Value → Except Failure Value
  | .null => .ok (.list [])
  | .list entries => do return .list (← readDevicesFrom section_ path 0 entries)
  | _ => .error (.notList section_ path)

def readRuntime (path : String) (root : List (Value × Value)) : Except Failure Value := do
  let entries ← sectionEntries path "runtime" root
  checkKeys ["log_level"] "runtime" path entries
  return field entries "log_level" (.text "info")

def readCatalog (path : String) (root : List (Value × Value)) : Except Failure CatalogBlock := do
  let entries ← sectionEntries path "catalog" root
  checkKeys ["type", "audio_devices", "video_devices", "default_audio_id", "default_video_id"]
    "catalog" path entries
  let audio := field entries "audio_devices" (.list [])
  let video := field entries "video_devices" (.list [])
  let audioDevices ← readDevices "catalog.audio_devices" path audio
  let videoDevices ← readDevices "catalog.video_devices" path video
  let defaultAudioId ← (field entries "default_audio_id" (.text "")).toTextOrEmpty
  let defaultVideoId ← (field entries "default_video_id" (.text "")).toTextOrEmpty
  return {
    backend := field entries "type" (.text "static")
    audioDevices
    videoDevices
    defaultAudioId := .text defaultAudioId
    defaultVideoId := .text defaultVideoId }

def readConsent (path : String) (root : List (Value × Value)) : Except Failure ConsentBlock := do
  let entries ← sectionEntries path "consent" root
  checkKeys ["type", "blocked_origins"] "consent" path entries
  return {
    backend := field entries "type" (.text "decline")
    blockedOrigins := field entries "blocked_origins" (.list []) }

def ofDocument (path : String) (document : Value) : Except Failure Settings := do
  let root ← rootEntries path document
  checkKeys ["runtime", "catalog", "consent"] "<root>" path root
  let logLevel ← readRuntime path root
  let catalog ← readCatalog path root
  let consent ← readConsent path root
  return { logLevel, catalog, consent }

end CaptureArbiter.Settings
