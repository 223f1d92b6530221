import CaptureArbiter.Catalog
import CaptureArbiter.Desk
import CaptureArbiter.Request

/-!
# Consent authorities

Before the arbiter decides on hardware, an authority may take the request over. One that declines
leaves everything to the arbiter, one with a policy denies requests of blocked origins, and one with
a handler hands every request to an application while a handler is installed. An application's
behaviour is a script, and a scripted authority may do anything an application can do. An
application that looks at how its runs end takes one course in the end, and that course is a script
again.
-/

namespace CaptureArbiter

/-- One act of an application that was given a callback. An attempt is a run whose failure the
application handles by itself. -/
inductive Play where
  | park
  | run (devices : List Device) (result : Given)
  | attempt (devices : List Device) (result : Given)
  | fail (failure : Failure)

inductive Consent where
  | decline
  | policy (blocked : List String)
  | handler (script : Option (List Play))
  | scripted (script : List Play) (claim : Value)

/-- The configured description of an authority, not yet read. -/
structure ConsentBlock where
  backend : Value := .text "decline"
  blockedOrigins : Value := .list []

/-- The form in which origins are compared. -/
def normalOrigin (s : String) : String := Text.lower (Text.dropTrailingSlashes (Text.trim s))

namespace Play

def perform (callback : Nat) : Play → Act Desk Unit
  | .park => Desk.park callback
  | .run devices result => Desk.runCallback callback devices result
  | .attempt devices result => do
    let _ ← Act.attempt (Desk.runCallback callback devices result)
  | .fail failure => Act.fail failure

end Play

namespace Consent

def readOrigins (block : ConsentBlock) : Except Failure (List String) := do
  (← Catalog.members block.blockedOrigins).mapM Value.toText

/-- The authority with a policy against origins. Empty origins are never blocked. -/
def ofBlockedOrigins (origins : List String) : Consent :=
  .policy ((origins.map normalOrigin).filter (· != ""))

def className : Consent → String
  | .decline => "DeclineConsentAuthority"
  | .policy _ => "OriginPolicyConsentAuthority"
  | .handler _ => "HandlerConsentAuthority"
  | .scripted .. => "ScriptedConsentAuthority"

/-- Installs a handler, or none; only an authority made for handlers can take one. -/
def setHandler (script : Option (List Play)) : Consent → Except Failure Consent
  | .handler _ => .ok (.handler script)
  | c => .error (.noAttribute c.className "set_handler")

def frameText (r : Request) : String :=
  String.join [Decimal.ofInt r.processId, ":", Decimal.ofInt r.frameId]

def deniedNote (origin : String) : Note :=
  ⟨.policy, .info, "Denying capture request from blocked origin " ++ origin⟩

def handingNote (r : Request) : Note :=
  ⟨.handler, .debug,
    String.join ["Handing request from ", frameText r, " to media request handler"]⟩

def failedNote (r : Request) : Note :=
  ⟨.handler, .error, "Media request handler failed for " ++ frameText r⟩

/-- Offers a request's callback to the authority. A result that counts as true claims the request.
A handler that fails still owns the callback it was given. -/
def offer (authority : Consent) (r : Request) (callback : Nat) : Act Desk Value :=
  match authority with
  | .decline => pure (.bool false)
  | .policy blocked => do
    let origin := normalOrigin r.securityOrigin
    if blocked.contains origin then
      Desk.note [deniedNote origin]
      Desk.runCallback callback [] (.ofOutcome .permissionDenied)
      return .bool true
    else return .bool false
  | .handler none => pure (.bool false)
  | .handler (some script) => do
    Desk.note [handingNote r]
    match ← Act.attempt (Act.each (Play.perform callback) script) with
    | .ok _ => pure ()
    | .error _ => Desk.note [failedNote r]
    return .bool true
  | .scripted script claim => do
    Act.each (Play.perform callback) script
    return claim

end Consent

end CaptureArbiter
