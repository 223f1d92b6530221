import CaptureArbiter.Path.Folder
import CaptureArbiter.Settings.Document
import CaptureArbiter.Yaml.Document

/-!
# Loading settings from files

A directory holds one configuration file, named `main_` something. The path of the directory is part
of the pattern that is searched for, so that special characters in it do not stand for themselves.
-/

namespace CaptureArbiter.Settings

/-- What is in a file: a text, or a document that has been read already. -/
inductive Content where
  | text (s : String)
  | document (v : Value)

def namePatterns : List String := ["main_*.yaml", "main_*.yml"]

def findMain (files : Path.Folder Content) (directory : String) : Except Failure String :=
  let candidates := namePatterns.flatMap fun name =>
    files.search (Path.join directory.toList name.toList)
  match candidates with
  | [] => .error (.noConfiguration directory)
  | [path] => .ok path
  | paths => .error (.manyConfigurations (paths.mergeSort fun a b => !decide (b < a)))

def readMain (files : Path.Folder Content) (path : String) : Except Failure Value :=
  match (files.locate path.toList).bind files.file? with
  | some (.text s) => Yaml.readFile path s
  | some (.document v) => .ok v
  | none => .error (.isDirectory path)

def load (files : Path.Folder Content) (directory : String) :
    Except Failure (String × Settings) := do
  let path ← findMain files directory
  return (path, ← ofDocument path (← readMain files path))

end CaptureArbiter.Settings
