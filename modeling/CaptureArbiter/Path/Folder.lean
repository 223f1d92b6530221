import CaptureArbiter.Path.Pattern
import CaptureArbiter.Text.Split

/-!
# Files and directories

The files there are, by the names on the way to them from the root, the working directory, from
which a path leads unless it begins with a slash, and the search for the paths that match a pattern.
Every part of a pattern's path may be a pattern itself.
-/

namespace CaptureArbiter.Path

/-- All files, and the working directory. The directories on the way to them exist with them. -/
structure Folder (α : Type) where
  files : List (List String × α) := []
  here : List String := []

/-- The names in a path; empty names and single dots lead nowhere. -/
def namesOf (path : List Char) : List String :=
  ((Text.splitAt '/' path).map String.ofList).filter fun n => n != "" && n != "."

/-- Splits a path before its last name. Slashes at the end of the first part are dropped, unless
there is nothing else. -/
def splitLast (path : List Char) : List Char × List Char :=
  let base := (path.reverse.takeWhile (· != '/')).reverse
  let start := path.take (path.length - base.length)
  let trimmed := (start.reverse.dropWhile (· == '/')).reverse
  (if trimmed.isEmpty then start else trimmed, base)

def join (path name : List Char) : List Char :=
  if path.isEmpty || path.getLast? == some '/' then path ++ name else path ++ '/' :: name

/-- The directory in which a path begins: the root, or the working directory. -/
def start (here : List String) (path : List Char) : List String :=
  if path.head? == some '/' then [] else here

namespace Folder

variable {α : Type}

/-- Files at paths, of which those without a slash in front lead from the working directory. -/
def ofList (files : List (String × α)) (here : String := "/work") : Folder α :=
  let here := namesOf here.toList
  { here, files := files.map fun f => (start here f.1.toList ++ namesOf f.1.toList, f.2) }

def isDirectory (f : Folder α) (names : List String) : Bool :=
  names.isPrefixOf f.here || f.files.any fun e => names.isPrefixOf e.1 && names != e.1

def file? (f : Folder α) (names : List String) : Option α :=
  (f.files.find? fun e => e.1 == names).map (·.2)

/-- Follows names from a directory; two dots lead to the one around it, and stay at the root. -/
def follow (f : Folder α) (at_ : List String) : List String → Option (List String)
  | [] => some at_
  | n :: ns =>
    if !f.isDirectory at_ then none
    else if n == ".." then follow f at_.dropLast ns
    else follow f (at_ ++ [n]) ns

/-- Where a path leads. A path with a slash at its end has to lead to a directory. -/
def locate (f : Folder α) (path : List Char) : Option (List String) :=
  (f.follow (start f.here path) (namesOf path)).filter fun names =>
    f.isDirectory names || ((f.file? names).isSome && path.getLast? != some '/')

def list (f : Folder α) (path : List Char) : List String :=
  match f.locate path with
  | none => []
  | some at_ =>
    ((f.here :: f.files.map (·.1)).filterMap fun names =>
      if at_.isPrefixOf names then (names.drop at_.length).head? else none).eraseDups

/-- The names in a directory that match the last part of a pattern. -/
def matchIn (f : Folder α) (directory base : List Char) (onlyDirectories : Bool) :
    List (List Char) :=
  if Pattern.isPattern base then
    ((f.list directory).filter fun n => Pattern.matchesName base n &&
      (!onlyDirectories ||
        ((f.locate (join directory n.toList)).any f.isDirectory))).map String.toList
  else if (f.locate (join directory base)).isSome then [base]
  else []

/-- The paths that match a pattern; `fuel` is at least the number of its parts. -/
def searchWithin (f : Folder α) (onlyDirectories : Bool) : Nat → List Char → List (List Char)
  | 0, _ => []
  | fuel + 1, pattern =>
    let (start, base) := splitLast pattern
    if !Pattern.isPattern pattern then
      if (f.locate pattern).isSome then [pattern] else []
    else
      let directories :=
        if start != pattern && Pattern.isPattern start then f.searchWithin true fuel start
        else [start]
      directories.flatMap fun d => (f.matchIn d base onlyDirectories).map (join d)

def search (f : Folder α) (pattern : List Char) : List String :=
  (f.searchWithin false (pattern.length + 1) pattern).map String.ofList

end Folder

end CaptureArbiter.Path
