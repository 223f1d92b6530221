import CaptureArbiter.Arbiter

/-!
# Operations

Everything that can be asked of an office, of the arbiter in it or of a service, as data, and what
each operation answers. A run of the library is a list of operations, and an operation that fails
does not stop the next ones. An arbiter may be asked to deny with the outcome that a value names, or
with whatever the caller has. A service hears one request after the other, each by an arbiter of its
own that is released at the end, and keeps count of them; a request stays pending until its callback
has been delivered to.
-/

namespace CaptureArbiter

inductive Operation where
  | setAudio (devices : List Device)
  | setVideo (devices : List Device)
  | list
  | findAudio (id : String)
  | findVideo (id : String)
  | first
  | defaultDevices
  | neededDefaults (audio video : Bool)
  | hasAny
  | registerFrame (process frame url : Value)
  | unregisterFrame (process frame : Value)
  | lookupFrame (process frame : Value)
  | runParked (index : Int) (devices : List Device) (result : Given)
  | setHandler (script : Option (List Play))
  | offer (request : Value) (label : String) (sink : Sink)
  | run
  | scopedRun
  | close
  | accept
  | deny (code : Value)
  | denyWith (result : Given)
  | drop
  | handle (request : Value) (sink : Sink)
  | stats

inductive Reply where
  | nothing
  | flag (b : Bool)
  | text (s : String)
  | phase (p : Phase)
  | device (d : Option Device)
  | devices (ds : List Device)
  | devicePair (audio video : Option Device)
  | listing (audio video : List Device)
  | frame (f : Option Frame)
  | offered (claim : Value) (used : Bool)

/-- An office and the arbiter in it, unless there is none. -/
structure Session where
  office : Office := {}
  arbiter : Option Arbiter := none

/-- A session that begins with an arbiter in an office. The callback of its request is the only one,
on a desk that is new but for the log. -/
def Session.arbitration (o : Office) (request : Request) (label : String) (sink : Sink) : Session :=
  { office := { o with desk := { callbacks := [{ label, sink }], log := o.desk.log } }
    arbiter := some { request, held := some 0 } }

/-- A session that begins with a service in an office, on a desk that is new but for the log. -/
def Session.service (o : Office) : Session :=
  { office := { o with desk := { log := o.desk.log } } }

namespace Office

def changeDevices (what : String) (change : Catalog → Except Failure Catalog)
    (devices : List Device) : Act Office Reply := do
  let catalog ← Act.ofExcept (change (← Act.get).catalog)
  Act.modify ({ · with catalog })
  onDesk (Desk.note [Catalog.changedNote what devices])
  return .nothing

def askCatalog (question : Catalog → Reply) : Act Office Reply := do
  return question (← Act.get).catalog

def registerFrame (process frame url : Value) : Act Office Reply := do
  let (registered, frames) ← Act.ofExcept ((← Act.get).frames.register process frame url)
  Act.modify ({ · with frames })
  onDesk (Desk.note [Frames.registeredNote process frame url])
  return .frame (some registered)

def unregisterFrame (process frame : Value) : Act Office Reply := do
  let (wasLive, frames) ← Act.ofExcept ((← Act.get).frames.unregister process frame)
  Act.modify ({ · with frames })
  if wasLive then onDesk (Desk.note [Frames.unregisteredNote process frame])
  return .flag wasLive

/-- Offers a new callback for a request to the authority, and tells whether the callback has been
used by then. -/
def offer (request : Value) (label : String) (sink : Sink) : Act Office Reply := do
  let r ← Act.ofExcept (Request.ofValue request)
  let callback ← onDesk (Desk.add { label, sink })
  let claim ← onDesk ((← Act.get).consent.offer r callback)
  return .offered claim ((← Act.get).desk.isUsed callback)

def tallied (f : Tally → Tally) : Act Office Unit :=
  .modify fun o => { o with desk := { o.desk with tally := f o.desk.tally } }

def hear (request : Request) (callback : Nat) : Act Office Phase := fun o =>
  let (phase, h) := Hearing.scopedRun.run ⟨o, { request, held := some callback }⟩
  (phase, h.office)

/-- Handles a request: counts it, makes its callback, hears it, and counts it as abandoned if its
frame was gone. -/
def handle (request : Request) (sink : Sink) : Act Office Phase := do
  tallied Tally.opened
  let number := (← Act.get).desk.tally.total
  let callback ← onDesk <| Desk.add
    { label := "request-" ++ Decimal.ofNat number
      ticket := some ⟨number, request.securityOrigin⟩
      sink }
  let phase ← hear request callback
  if phase = .abandonedNoFrame then
    tallied fun t => { t with abandoned := t.abandoned + 1 }
  return phase

end Office

namespace Session

def onOffice {α : Type} (a : Act Office α) : Act Session α :=
  a.zoom office fun o s => { s with office := o }

/-- Runs an action of the arbiter; `name` is what was asked of it. -/
def onHearing {α : Type} (name : String) (a : Act Hearing α) : Act Session α := fun s =>
  match s.arbiter with
  | none => (.error (.noAttribute "NoneType" name), s)
  | some arbiter =>
    let (r, h) := a.run ⟨s.office, arbiter⟩
    (r, { office := h.office, arbiter := some h.arbiter })

/-- Destroys the arbiter, which releases it; a failure of the release vanishes. -/
def drop : Act Session Reply := do
  if (← Act.get).arbiter.isSome then
    let _ ← Act.attempt (onHearing "close" Hearing.close)
    Act.modify ({ · with arbiter := none })
  return .nothing

def perform : Operation → Act Session Reply
  | .setAudio ds => onOffice (Office.changeDevices "Audio" (·.setAudio ds) ds)
  | .setVideo ds => onOffice (Office.changeDevices "Video" (·.setVideo ds) ds)
  | .list => onOffice (Office.askCatalog fun c => .listing c.audio c.video)
  | .findAudio id => onOffice (Office.askCatalog fun c => .device (c.findAudio id))
  | .findVideo id => onOffice (Office.askCatalog fun c => .device (c.findVideo id))
  | .first => onOffice (Office.askCatalog fun c => .devicePair c.firstAudio c.firstVideo)
  | .defaultDevices =>
    onOffice (Office.askCatalog fun c => .devicePair c.defaultAudio c.defaultVideo)
  | .neededDefaults audio video =>
    onOffice (Office.askCatalog fun c => .devices (c.defaults audio video))
  | .hasAny => onOffice (Office.askCatalog fun c => .flag c.hasAny)
  | .registerFrame process frame url => onOffice (Office.registerFrame process frame url)
  | .unregisterFrame process frame => onOffice (Office.unregisterFrame process frame)
  | .lookupFrame process frame => do
    return .frame (← Act.ofExcept ((← Act.get).office.frames.lookup process frame))
  | .runParked index devices result => do
    onOffice (Office.onDesk (Desk.runParked index devices result))
    return .nothing
  | .setHandler script => do
    let consent ← Act.ofExcept ((← Act.get).office.consent.setHandler script)
    onOffice (Act.modify ({ · with consent }))
    return .nothing
  | .offer request label sink => onOffice (Office.offer request label sink)
  | .run => do return .phase (← onHearing "run" Hearing.run)
  | .scopedRun => do return .phase (← onHearing "run" Hearing.scopedRun)
  | .close => do return .flag (← onHearing "close" Hearing.close)
  | .accept => do
    onHearing "accept" Hearing.accept
    return .nothing
  | .deny code => do
    onHearing "deny" (Hearing.denyNamed code)
    return .nothing
  | .denyWith result => do
    onHearing "deny" (Hearing.deny result)
    return .nothing
  | .drop => drop
  | .handle request sink => do
    let r ← Act.ofExcept (Request.ofValue request)
    return .phase (← onOffice (Office.handle r sink))
  | .stats => pure .nothing

def after (s : Session) : List Operation → Session
  | [] => s
  | op :: ops => ((perform op).run s).2.after ops

theorem after_append (s : Session) (ops more : List Operation) :
    s.after (ops ++ more) = (s.after ops).after more := by
  induction ops generalizing s with
  | nil => rfl
  | cons op ops ih => exact ih _

end Session

end CaptureArbiter
