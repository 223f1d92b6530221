import CaptureArbiter.CommandLine.Run

/-!
# The program

Standard input lists the paths of the files that may hold a configuration, one a line. The words of
the command line say what is requested.
-/

open CaptureArbiter

/-- Reads the paths up to the end of the input, and the files at them. -/
partial def readFiles (input : IO.FS.Stream) (files : List (String × Settings.Content)) :
    IO (List (String × Settings.Content)) := do
  let line ← input.getLine
  if line.isEmpty then return files
  else
    let path := Text.trim line
    if path.isEmpty then readFiles input files
    else
      let text ← IO.FS.readFile path
      readFiles input (files ++ [(path, .text text)])

def main (words : List String) : IO UInt32 := do
  let files ← readFiles (← IO.getStdin) []
  let report := CommandLine.run (.ofList files) {} words
  for note in report.log do
    IO.eprintln note.line
  IO.print report.output
  match report.ending with
  | .exit status => return status.toUInt32
  | .failed f =>
    IO.eprintln f.message
    return 1
