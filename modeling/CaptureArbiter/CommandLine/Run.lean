import CaptureArbiter.CommandLine.Arguments
import CaptureArbiter.Operation
import CaptureArbiter.Settings.Check
import CaptureArbiter.Settings.Load
import CaptureArbiter.Settings.Service

/-!
# Running a command line

A run loads and checks the settings, builds the service, handles the one request that the arguments
describe, and prints the devices that were granted, one a line, and the outcome. Faults of the
configuration end the run with a line in the log; any other failure leaves it.
-/

namespace CaptureArbiter.CommandLine

inductive Ending where
  | exit (status : Nat)
  | failed (f : Failure)

structure Report where
  ending : Ending
  output : String := ""
  log : List Note := []

def Arguments.request (a : Arguments) : Request :=
  { processId := a.processId
    frameId := a.frameId
    audio := a.audio
    video := a.video
    kind := a.requestKind
    audioDeviceId := a.audioDeviceId
    videoDeviceId := a.videoDeviceId
    securityOrigin := a.origin }

def ownNote (level : Level) (message : String) : Note := ⟨.commandLine, level, message⟩

def configInvalid (level : Level) (earlier : List Note) (f : Failure) : Report :=
  { ending := .exit 1
    log := (earlier ++ [ownNote .error ("Config invalid: " ++ f.message)]).filter
      (·.isShownAt level) }

def deviceLine (d : Device) : String := String.join [d.kind.name, "\t", d.id, "\t", d.name, "\n"]

def deliveryText : Option Delivery → String
  | none => "PENDING\n"
  | some d => String.join (d.devices.map deviceLine ++ [d.outcome.name, "\n"])

def deliveryStatus : Option Delivery → Nat
  | none => 2
  | some d => if d.outcome = .ok then 0 else 1

/-- The office of the service before it is furnished: with the frame of the request, unless it is
left out. -/
def lobby (a : Arguments) : Act Office Unit :=
  if a.noFrame then pure ()
  else do
    let _ ← Office.registerFrame (.int a.processId) (.int a.frameId) (.text a.origin)

def handleRequest (a : Arguments) (level : Level) (earlier : List Note) (o : Office) : Report :=
  let (result, o) := (Office.handle a.request .accept).run o
  let log := earlier ++ o.desk.log
  match result with
  | .error f => { ending := .failed f, log := log.filter (·.isShownAt level) }
  | .ok phase =>
    let finished := ownNote .info ("Arbiter finished in state " ++ phase.name)
    let delivery := o.desk.deliveries.getLast?
    { ending := .exit (deliveryStatus delivery)
      output := deliveryText delivery
      log := (log ++ [finished]).filter (·.isShownAt level) }

def serve (a : Arguments) (level : Level) (path : String) (s : Settings) (backends : Backends) :
    Report :=
  let start := [ownNote .info ("Config file: main=" ++ path)]
  let (_, o) := (lobby a).run {}
  match ((s.furnish none o).run backends).1 with
  | .ok furnished => handleRequest a level start furnished
  | .error f =>
    let log := start ++ o.desk.log
    if f.kind = .badValue then configInvalid level log f
    else { ending := .failed f, log := log.filter (·.isShownAt level) }

def settings (files : Path.Folder Settings.Content) (directory : String) :
    Except Failure (String × Settings) := do
  let (path, s) ← Settings.load files directory
  s.check
  return (path, s)

/-- Runs with arguments. The log level of the settings counts unless the arguments give one. -/
def runArguments (files : Path.Folder Settings.Content) (backends : Backends) (a : Arguments) :
    Report :=
  let fail := fun f => { ending := .failed f : Report }
  match Level.choose a.verbose (.text a.logLevel) with
  | .error f => fail f
  | .ok level =>
    match settings files a.configDir with
    | .error f => if f.kind = .configuration then configInvalid level [] f else fail f
    | .ok (path, s) =>
      let chosen := if a.verbose || a.logLevel != "" then .ok level
        else Level.choose a.verbose s.logLevel
      match chosen with
      | .error f => fail f
      | .ok level => serve a level path s backends

def run (files : Path.Folder Settings.Content) (backends : Backends) (words : List String) :
    Report :=
  match parse words with
  | .error .help => { ending := .exit 0 }
  | .error .usage => { ending := .exit 2 }
  | .ok a => runArguments files backends a

end CaptureArbiter.CommandLine
