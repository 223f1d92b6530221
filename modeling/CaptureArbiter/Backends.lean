import CaptureArbiter.Catalog
import CaptureArbiter.Consent
import CaptureArbiter.Registry
import CaptureArbiter.Text.Split

/-!
# Backends by name

Catalogs and consent authorities are made by backends that are known by name. A backend's module
registers it when it is loaded, and is loaded when its name is first asked for, so a run begins with
empty registries. Modules form packages; loading one loads the packages around it first.
-/

namespace CaptureArbiter

inductive CatalogBackend where
  | static
  deriving DecidableEq, Repr

/-- What makes consent authorities. A plug-in brings an authority of its own. -/
inductive ConsentBackend where
  | decline
  | policy
  | handler
  | plugin (script : List Play) (claim : Value)

structure Backends where
  catalogs : Registry CatalogBackend := {}
  consents : Registry ConsentBackend := {}

def CatalogBackend.className : CatalogBackend → String
  | .static => "StaticDeviceCatalog"

def ConsentBackend.className : ConsentBackend → String
  | .decline => (Consent.decline).className
  | .policy => (Consent.policy []).className
  | .handler => (Consent.handler none).className
  | .plugin script claim => (Consent.scripted script claim).className

namespace Backends

def packages : List (String × List String) :=
  [("catalog", ["__init__", "base", "static"]),
    ("consent", ["__init__", "base", "decline", "handler", "policy"]),
    ("core", ["callback", "config", "contracts", "frames", "registry", "runtime"]),
    ("core.config", ["__init__", "loader", "schema", "validate"]),
    ("arbiter", ["__init__", "arbiter", "desktop_media_id", "screen", "selector"])]

def isPackage (path : String) : Bool := packages.any (·.1 == path)

def isModule (path : String) : Bool :=
  isPackage path ||
    packages.any fun p => p.2.any fun name => String.join [p.1, ".", name] == path

def registerModule (b : Backends) (path : String) : Backends :=
  if path == "catalog.static" then { b with catalogs := b.catalogs.insert "static" .static }
  else if path == "consent.decline" then { b with consents := b.consents.insert "decline" .decline }
  else if path == "consent.policy" then { b with consents := b.consents.insert "policy" .policy }
  else if path == "consent.handler" then { b with consents := b.consents.insert "handler" .handler }
  else b

/-- Loads what is left of a path inside the package or module that has been loaded, and gives the
reason if something is missing. -/
def loadInside (loaded : String) : List String → Act Backends (Option String)
  | [] => pure none
  | name :: names => do
    let path := String.join [loaded, ".", name]
    if !isPackage loaded then
      return some (String.join ["No module named ", Text.quoted path, "; ", Text.quoted loaded,
        " is not a package"])
    else if !isModule path then return some ("No module named " ++ Text.quoted path)
    else
      Act.modify (·.registerModule path)
      loadInside path names

def load (path : String) : Act Backends (Option String) :=
  match (Text.splitAt '.' path.toList).map String.ofList with
  | [] => pure none
  | "" :: _ => Act.fail (.relativeImport path)
  | first :: names =>
    if isPackage first then loadInside first names
    else pure (some ("No module named " ++ Text.quoted first))

def catalogBackend (name : Value) : Act Backends CatalogBackend :=
  Registry.resolve catalogs load name "catalog" "catalog type"

def consentBackend (name : Value) : Act Backends ConsentBackend :=
  Registry.resolve consents load name "consent" "consent type"

end Backends

/-- A registry of its own, and the backends that looking names up in it may load. -/
structure NameSession where
  own : Registry String := {}
  backends : Backends := {}
  log : List Note := []

inductive NameOperation where
  | register (name : Value) (object : String)
  | resolve (name : Value) (package label : String)
  | makeCatalog (name : Value)
  | makeConsent (name : Value)

namespace NameSession

def onBackends {α : Type} (a : Act Backends α) : Act NameSession α :=
  a.zoom backends fun b s => { s with backends := b }

def againNote (key object : String) : Note :=
  ⟨.registry, .debug, String.join ["Backend ", Text.quoted key, " re-registered by <", object, ">"]⟩

def register (name : Value) (object : String) : Act NameSession String := do
  let key ← Act.ofExcept (Registry.keyOf name)
  let before := (← Act.get).own.find? key
  Act.modify fun s =>
    { s with
      own := s.own.insert key object
      log := s.log ++ if before.any (· != object) then [againNote key object] else [] }
  return object

/-- Performs an operation; the answer is the object or class that was found. -/
def perform : NameOperation → Act NameSession String
  | .register name object => register name object
  | .resolve name package label =>
    Registry.resolve own (fun path => onBackends (Backends.load path)) name package label
  | .makeCatalog name => do return (← onBackends (Backends.catalogBackend name)).className
  | .makeConsent name => do return (← onBackends (Backends.consentBackend name)).className

end NameSession

end CaptureArbiter
