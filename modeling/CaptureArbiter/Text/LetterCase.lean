import CaptureArbiter.Text.LetterCase.Table

/-!
# Upper and lower case

Case mappings of whole texts by the Unicode 14 character database. A character may become several
(`ß` is raised to `SS`), and a capital sigma is lowered to its final form at the end of a word.
-/

namespace CaptureArbiter.Text

def upperChar (c : Char) : List Char :=
  if c.toNat < 128 then [c.toUpper]
  else match longUppers.find? (·.1 == c.toNat) with
    | some (_, image) => image.map Char.ofNat
    | none => [Char.ofNat (CaseRun.map upperRuns c.toNat)]

def upper (s : String) : String := String.ofList (s.toList.flatMap upperChar)

/-- Do the characters, read from a place inside a text, first reach a cased letter? Those that a
scan for the end of a word skips are skipped. -/
def reachesCased : List Char → Bool
  | [] => false
  | c :: rest =>
    if Runs.contains caseIgnorableRuns c.toNat then reachesCased rest
    else Runs.contains casedRuns c.toNat

/-- The lower case of `c` between the characters before it (nearest first) and those after it. -/
def lowerChar (before : List Char) (c : Char) (after : List Char) : List Char :=
  if c.toNat < 128 then [c.toLower]
  else if c == '\u03a3' then
    [if reachesCased before && !reachesCased after then '\u03c2' else '\u03c3']
  else if c == '\u0130' then ['i', '\u0307']
  else [Char.ofNat (CaseRun.map lowerRuns c.toNat)]

/-- Lowers the characters one by one, keeping those already passed, nearest first. -/
def lowerFrom (before : List Char) : List Char → List Char
  | [] => []
  | c :: rest => lowerChar before c rest ++ lowerFrom (c :: before) rest

def lower (s : String) : String := String.ofList (lowerFrom [] s.toList)

theorem upper_empty : upper "" = "" := by
  simp [upper]

end CaptureArbiter.Text
