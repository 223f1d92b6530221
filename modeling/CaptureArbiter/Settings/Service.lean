import CaptureArbiter.Arbiter
import CaptureArbiter.Backends
import CaptureArbiter.Settings.Check

/-!
# Services from settings

A service is made of a catalog, a consent authority and the live frames. Catalogs and authorities
are made by the backends that the settings name. A handler may be brought along only if the settings
ask for the authority that takes one.
-/

namespace CaptureArbiter

def ConsentBackend.makerName : ConsentBackend → String
  | .decline => "BaseConsentAuthority"
  | b => b.className

namespace Backends

/-- Makes the catalog that a block describes. The description is read before its backend is looked
up. -/
def makeCatalog (block : CatalogBlock) : Act Backends Catalog := do
  let catalog ← Act.ofExcept (Catalog.ofBlock block)
  match ← catalogBackend block.backend with
  | .static => return catalog

/-- Makes the authority of a backend, with the handler that it is given, if it is given one. -/
def authority (origins : List String) (handler : Option (Option (List Play))) :
    ConsentBackend → Except Failure Consent
  | .handler => .ok (.handler (handler.getD none))
  | b =>
    if handler.isSome then .error (.unexpectedHandler b.makerName)
    else .ok <| match b with
      | .decline => .decline
      | .policy => Consent.ofBlockedOrigins origins
      | .handler => .handler none
      | .plugin script claim => .scripted script claim

def makeConsent (block : ConsentBlock) (handler : Option (Option (List Play))) :
    Act Backends Consent := do
  let origins ← Act.ofExcept (Consent.readOrigins block)
  let backend ← consentBackend block.backend
  Act.ofExcept (authority origins handler backend)

end Backends

namespace Settings

def serviceNote (s : Settings) (catalog : Catalog) : Note :=
  ⟨.service, .info, String.join ["Media access service: catalog=", s.catalog.backend.display,
    " audio=", Decimal.ofNat catalog.audio.length, " video=", Decimal.ofNat catalog.video.length,
    " consent=", s.consent.backend.display]⟩

def takesHandler (s : Settings) : Except Failure Bool := do
  return Text.lower (Text.trim (← s.consent.backend.toText)) == "handler"

/-- Furnishes the office of a service in which frames may already be live. -/
def furnish (s : Settings) (handler : Option (List Play)) (o : Office) : Act Backends Office := do
  if handler.isSome then
    if !(← Act.ofExcept s.takesHandler) then Act.fail (.handlerNotUsed s.consent.backend)
  let catalog ← Backends.makeCatalog s.catalog
  let consent ← Backends.makeConsent s.consent (handler.map some)
  return { o with catalog, consent, desk := o.desk.noted [s.serviceNote catalog] }

end Settings

end CaptureArbiter
