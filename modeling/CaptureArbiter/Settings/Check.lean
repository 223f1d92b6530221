import CaptureArbiter.Catalog
import CaptureArbiter.Consent

/-!
# Settings and their check

What a configuration says: how much is logged, which devices there are, and who gives consent. The
values are kept as they were written and are checked before a service is built from them: the log
level has a known name, the backends are named, every device has an id of its own in its list,
default ids belong to devices, and blocked origins are texts. The first fault is reported.
-/

namespace CaptureArbiter

structure Settings where
  logLevel : Value := .text "info"
  catalog : CatalogBlock := {}
  consent : ConsentBlock := {}

def Level.names : List (String × Level) :=
  [("debug", .debug), ("info", .info), ("warning", .warning), ("warn", .warning),
    ("error", .error), ("critical", .critical)]

def Level.keyOf (name : Value) : Except Failure String := do
  return Text.lower (Text.trim (← name.toTextOrEmpty))

/-- The log level that is chosen: everything if asked for, else the named one, else the middle. -/
def Level.choose (verbose : Bool) (name : Value) : Except Failure Level :=
  if verbose then .ok .debug
  else do return (Level.names.lookup (← Level.keyOf name)).getD .info

def deviceEntry (id name : String) : Value :=
  .map [(.text "id", .text id), (.text "name", .text name)]

namespace Settings

def checkChoice (name : String) (choices : List String) (v : Value) : Except Failure Unit := do
  if choices.contains (← Level.keyOf v) then return ()
  else throw (v.checked (.notOneOf name choices v))

def checkName (name : String) : Value → Except Failure Unit
  | .text s => if Text.trim s == "" then .error (.notName name) else .ok ()
  | _ => .error (.notName name)

def checkTextsFrom (name : String) (index : Nat) : List Value → Except Failure Unit
  | [] => .ok ()
  | .text _ :: vs => checkTextsFrom name (index + 1) vs
  | _ :: _ => .error (.notText name index)

def checkTexts (name : String) : Value → Except Failure Unit
  | .list vs => checkTextsFrom name 0 vs
  | _ => .error (.notTextList name)

/-- The id of a device entry; an entry that counts as false has none. -/
def entryId (entry : Value) : Except Failure String :=
  match entry.orElse (.map []) with
  | .map fields => (Value.entryOrNull fields "id").toTextOrEmpty
  | v => .error (.noAttribute v.className "get")

/-- The ids of device entries from a position on, added to those already seen. -/
def checkIdsFrom (name : String) (index : Nat) (seen : List String) :
    List Value → Except Failure (List String)
  | [] => .ok seen
  | entry :: entries => do
    let id ← entryId entry
    if id == "" then throw (.emptyDeviceId name index)
    else if seen.contains id then throw (.repeatedDeviceId name index id)
    else checkIdsFrom name (index + 1) (seen ++ [id]) entries

def checkIds (name : String) : Value → Except Failure (List String)
  | .list entries => checkIdsFrom name 0 [] entries
  | _ => .error (.notDeviceList name)

def checkDefault (name : String) (known : List String) (v : Value) : Except Failure Unit := do
  let id ← v.toTextOrEmpty
  if id == "" || known.contains id then return () else throw (.unknownDevice name id)

def check (s : Settings) : Except Failure Unit := do
  checkChoice "runtime.log_level" (Level.names.map (·.1)) s.logLevel
  checkName "catalog.type" s.catalog.backend
  let audioIds ← checkIds "catalog.audio_devices" s.catalog.audioDevices
  let videoIds ← checkIds "catalog.video_devices" s.catalog.videoDevices
  checkDefault "catalog.default_audio_id" audioIds s.catalog.defaultAudioId
  checkDefault "catalog.default_video_id" videoIds s.catalog.defaultVideoId
  checkName "consent.type" s.consent.backend
  checkTexts "consent.blocked_origins" s.consent.blockedOrigins

end Settings

end CaptureArbiter
