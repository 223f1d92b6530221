import CaptureArbiter.Note
import CaptureArbiter.Value.Reading

/-!
# Live frames

Frames are known by their process and frame ids. The registry keeps the latest registration of each
pair of ids. An operation whose ids cannot be read as integers changes nothing.
-/

namespace CaptureArbiter

/-- A live frame, with whatever was given as its address. -/
structure Frame where
  processId : Int
  frameId : Int
  url : Value := .text ""

/-- The live frames, the latest registration first. -/
structure Frames where
  entries : List Frame := []

namespace Frames

def hasIds (processId frameId : Int) (f : Frame) : Bool :=
  f.processId == processId && f.frameId == frameId

def find? (frames : Frames) (processId frameId : Int) : Option Frame :=
  frames.entries.find? (hasIds processId frameId)

def erase (frames : Frames) (processId frameId : Int) : Frames :=
  ⟨frames.entries.filter (!hasIds processId frameId ·)⟩

/-- Makes a frame the live one of its ids. -/
def insert (frames : Frames) (frame : Frame) : Frames :=
  ⟨frame :: (frames.erase frame.processId frame.frameId).entries⟩

def readIds (process frame : Value) : Except Failure (Int × Int) := do
  let processId ← process.toInt
  return (processId, ← frame.toInt)

def register (frames : Frames) (process frame url : Value) :
    Except Failure (Frame × Frames) := do
  let (processId, frameId) ← readIds process frame
  let registered : Frame := ⟨processId, frameId, url⟩
  return (registered, frames.insert registered)

def unregister (frames : Frames) (process frame : Value) : Except Failure (Bool × Frames) := do
  let (processId, frameId) ← readIds process frame
  return ((frames.find? processId frameId).isSome, frames.erase processId frameId)

def lookup (frames : Frames) (process frame : Value) : Except Failure (Option Frame) := do
  let (processId, frameId) ← readIds process frame
  return frames.find? processId frameId

/-- The note about a registration, with the ids as they were given. -/
def registeredNote (process frame url : Value) : Note :=
  ⟨.frames, .debug,
    String.join ["Frame registered ", process.display, ":", frame.display, " ", url.display]⟩

def unregisteredNote (process frame : Value) : Note :=
  ⟨.frames, .debug, String.join ["Frame unregistered ", process.display, ":", frame.display]⟩

theorem find?_insert_self (frames : Frames) (frame : Frame) :
    (frames.insert frame).find? frame.processId frame.frameId = some frame := by
  simp [find?, insert, hasIds]

theorem find?_erase_of_ne {frames : Frames} {p f q g : Int} (h : ¬(p = q ∧ f = g)) :
    (frames.erase p f).find? q g = frames.find? q g := by
  simp only [find?, erase, List.find?_filter]
  congr 1
  funext x
  by_cases hx : hasIds q g x
  · have hne : hasIds p f x = false := by
      simp only [hasIds, Bool.and_eq_true, beq_iff_eq] at hx
      simp only [hasIds, hx.1, hx.2, Bool.and_eq_false_iff, beq_eq_false_iff_ne]
      omega
    simp [hx, hne]
  · simp [hx]

theorem find?_insert_of_ne {frames : Frames} {frame : Frame} {q g : Int}
    (h : ¬(frame.processId = q ∧ frame.frameId = g)) :
    (frames.insert frame).find? q g = frames.find? q g := by
  have hne : hasIds q g frame = false := by
    simp only [hasIds, Bool.and_eq_false_iff, beq_eq_false_iff_ne]
    omega
  have herase := @find?_erase_of_ne frames _ _ _ _ h
  simp only [find?] at herase
  simp [find?, insert, hne, herase]

theorem find?_erase_self (frames : Frames) (processId frameId : Int) :
    (frames.erase processId frameId).find? processId frameId = none := by
  simp [find?, erase, List.find?_eq_none]

end Frames

end CaptureArbiter
