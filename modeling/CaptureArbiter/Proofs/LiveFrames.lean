import CaptureArbiter.Operation
import CaptureArbiter.Proofs.Readings
import Mathlib.Data.List.Induction

/-!
# Live frames

The registry of frames is a map in which the last registration of a pair of ids stands until the
pair is unregistered. Ids are compared as the integers that they are read as, however they were
given, and a call whose ids cannot be read fails before it changes anything.
-/

namespace CaptureArbiter

open Act

namespace Frames

variable {process frame : Value} {p f : Int} {e : Failure}

theorem readIds_ok (hp : process.toInt = .ok p) (hf : frame.toInt = .ok f) :
    readIds process frame = .ok (p, f) := by
  rw [readIds, bind_ok hp, bind_ok hf]
  rfl

theorem readIds_error (h : process.toInt = .error e ∨
    ∃ p, process.toInt = .ok p ∧ frame.toInt = .error e) : readIds process frame = .error e := by
  rcases h with hp | ⟨p, hp, hf⟩
  · rw [readIds, hp]
    rfl
  · rw [readIds, bind_ok hp, hf]
    rfl

end Frames

namespace Session

theorem run_registerFrame (process frame url : Value) (s : Session) :
    (perform (.registerFrame process frame url)).run s =
      match Frames.readIds process frame with
      | .error e => (.error e, s)
      | .ok (p, f) =>
        let x : Frame := ⟨p, f, url⟩
        let desk := s.office.desk.noted [Frames.registeredNote process frame url]
        (.ok (.frame (some x)),
          { s with office := { s.office with frames := s.office.frames.insert x, desk } }) := by
  rw [perform, onOffice, run_zoom, Office.registerFrame, run_bind_ok (run_get _), Frames.register]
  cases Frames.readIds process frame <;> rfl

theorem run_unregisterFrame (process frame : Value) (s : Session) :
    (perform (.unregisterFrame process frame)).run s =
      match Frames.readIds process frame with
      | .error e => (.error e, s)
      | .ok (p, f) =>
        let wasLive := (s.office.frames.find? p f).isSome
        let desk :=
          if wasLive then s.office.desk.noted [Frames.unregisteredNote process frame]
          else s.office.desk
        (.ok (.flag wasLive),
          { s with office := { s.office with frames := s.office.frames.erase p f, desk } }) := by
  rw [perform, onOffice, run_zoom, Office.unregisterFrame, run_bind_ok (run_get _)]
  cases hids : Frames.readIds process frame with
  | error e =>
    rw [Frames.unregister, hids]
    rfl
  | ok ids =>
    have hremoved : s.office.frames.unregister process frame =
        .ok ((s.office.frames.find? ids.1 ids.2).isSome, s.office.frames.erase ids.1 ids.2) := by
      rw [Frames.unregister, hids]
      rfl
    rw [hremoved]
    dsimp only
    cases (s.office.frames.find? ids.1 ids.2).isSome <;> rfl

theorem run_lookupFrame (process frame : Value) (s : Session) :
    (perform (.lookupFrame process frame)).run s =
      match Frames.readIds process frame with
      | .error e => (.error e, s)
      | .ok (p, f) => (.ok (.frame (s.office.frames.find? p f)), s) := by
  rw [perform, run_bind_ok (run_get s), Frames.lookup]
  cases Frames.readIds process frame <;> rfl

end Session

inductive FrameCall where
  | register (process frame url : Value)
  | unregister (process frame : Value)
  | lookup (process frame : Value)

namespace FrameCall

def operation : FrameCall → Operation
  | register process frame url => .registerFrame process frame url
  | unregister process frame => .unregisterFrame process frame
  | lookup process frame => .lookupFrame process frame

def process : FrameCall → Value
  | register process _ _ | unregister process _ | lookup process _ => process

def frame : FrameCall → Value
  | register _ frame _ | unregister _ frame | lookup _ frame => frame

/-- The call succeeds, and these are the integers that its ids are read as. -/
def Names (call : FrameCall) (p f : Int) : Prop :=
  call.process.toInt = .ok p ∧ call.frame.toInt = .ok f

/-- The call fails for an id that cannot be read, the first one or only the second one. -/
def Fails (call : FrameCall) (e : Failure) : Prop :=
  call.process.toInt = .error e ∨ ∃ p, call.process.toInt = .ok p ∧ call.frame.toInt = .error e

def Registers (call : FrameCall) (x : Frame) : Prop :=
  call.Names x.processId x.frameId ∧ ∃ process frame, call = register process frame x.url

/-- The call succeeds in registering or unregistering some frame of the ids. -/
def Changes (call : FrameCall) (p f : Int) : Prop :=
  call.Names p f ∧ ∀ process frame, call ≠ lookup process frame

/-- The frame was registered by a call after which none registers or unregisters its ids. -/
def IsLive (calls : List FrameCall) (x : Frame) : Prop :=
  ∃ earlier call later, calls = earlier ++ call :: later ∧ call.Registers x ∧
    ∀ c ∈ later, ¬c.Changes x.processId x.frameId

variable {call : FrameCall} {calls : List FrameCall} {p f : Int} {e : Failure} {x : Frame}

theorem names_or_fails (call : FrameCall) : (∃ p f, call.Names p f) ∨ ∃ e, call.Fails e := by
  cases hp : call.process.toInt with
  | error e => exact .inr ⟨e, .inl hp⟩
  | ok p =>
    cases hf : call.frame.toInt with
    | error e => exact .inr ⟨e, .inr ⟨p, hp, hf⟩⟩
    | ok f => exact .inl ⟨p, f, hp, hf⟩

theorem Registers.changes (h : call.Registers x) : call.Changes x.processId x.frameId := by
  obtain ⟨hnames, process, frame, rfl⟩ := h
  exact ⟨hnames, nofun⟩

theorem run_of_fails (h : call.Fails e) (s : Session) :
    (Session.perform call.operation).run s = (.error e, s) := by
  have hread : Frames.readIds call.process call.frame = .error e := Frames.readIds_error h
  cases call <;> rw [process, frame] at hread <;>
    simp only [operation, Session.run_registerFrame, Session.run_unregisterFrame,
      Session.run_lookupFrame, hread]

def left (frames : Frames) (p f : Int) : FrameCall → Frames
  | register _ _ url => frames.insert ⟨p, f, url⟩
  | unregister _ _ => frames.erase p f
  | lookup _ _ => frames

theorem frames_of_names (h : call.Names p f) (s : Session) :
    ((Session.perform call.operation).run s).2.office.frames = call.left s.office.frames p f := by
  have hread : Frames.readIds call.process call.frame = .ok (p, f) := Frames.readIds_ok h.1 h.2
  cases call <;> rw [process, frame] at hread <;>
    simp only [operation, Session.run_registerFrame, Session.run_unregisterFrame,
      Session.run_lookupFrame, hread, left]

theorem find?_of_not_changes (h : ¬call.Changes p f) (s : Session) :
    ((Session.perform call.operation).run s).2.office.frames.find? p f =
      s.office.frames.find? p f := by
  rcases names_or_fails call with ⟨q, g, hnames⟩ | ⟨e, hfails⟩
  · rw [frames_of_names hnames]
    cases call with
    | register process frame url =>
      refine Frames.find?_insert_of_ne fun hids => h ?_
      obtain ⟨rfl, rfl⟩ := hids
      exact ⟨hnames, nofun⟩
    | unregister process frame =>
      refine Frames.find?_erase_of_ne fun hids => h ?_
      obtain ⟨rfl, rfl⟩ := hids
      exact ⟨hnames, nofun⟩
    | lookup process frame => rfl
  · rw [run_of_fails hfails]

theorem find?_of_changes (h : call.Changes p f) (s : Session) :
    ((Session.perform call.operation).run s).2.office.frames.find? p f = some x ↔
      call.Registers x ∧ x.processId = p ∧ x.frameId = f := by
  rw [frames_of_names h.1]
  cases call with
  | register process frame url =>
    have hfound := Frames.find?_insert_self s.office.frames ⟨p, f, url⟩
    rw [left, hfound, Option.some.injEq]
    constructor
    · rintro rfl
      exact ⟨⟨h.1, process, frame, rfl⟩, rfl, rfl⟩
    · rintro ⟨⟨-, _, _, hcall⟩, rfl, rfl⟩
      cases hcall
      rfl
  | unregister process frame =>
    rw [left, Frames.find?_erase_self]
    exact ⟨nofun, fun ⟨⟨_, _, _, hcall⟩, _⟩ => nomatch hcall⟩
  | lookup process frame => exact absurd rfl (h.2 process frame)

theorem not_isLive_nil : ¬IsLive [] x := by
  rintro ⟨earlier, call, later, hcalls, -⟩
  exact absurd hcalls (by simp)

theorem isLive_concat : IsLive (calls ++ [call]) x ↔
    call.Registers x ∨ (¬call.Changes x.processId x.frameId ∧ IsLive calls x) := by
  constructor
  · rintro ⟨earlier, c, later, hcalls, hregisters, hlater⟩
    rcases List.eq_nil_or_concat later with rfl | ⟨init, last, rfl⟩
    · obtain ⟨-, hlast⟩ := List.append_inj' hcalls rfl
      cases hlast
      exact .inl hregisters
    · rw [List.concat_eq_append, ← List.cons_append, ← List.append_assoc] at hcalls
      obtain ⟨hinit, hlast⟩ := List.append_inj' hcalls rfl
      cases hlast
      refine .inr ⟨hlater call (by simp), earlier, c, init, hinit, hregisters, fun d hd => ?_⟩
      exact hlater d (by simp [hd])
  · rintro (hregisters | ⟨hnot, earlier, c, later, rfl, hregisters, hlater⟩)
    · exact ⟨calls, call, [], rfl, hregisters, nofun⟩
    · refine ⟨earlier, c, later ++ [call], by simp, hregisters, fun d hd => ?_⟩
      rcases List.mem_append.mp hd with hd | hd
      · exact hlater d hd
      · rw [List.mem_singleton.mp hd]
        exact hnot

theorem find?_after (s : Session) (hs : s.office.frames.entries = []) (calls : List FrameCall)
    (p f : Int) (x : Frame) :
    (s.after (calls.map operation)).office.frames.find? p f = some x ↔
      IsLive calls x ∧ x.processId = p ∧ x.frameId = f := by
  -- from the end: the last call decides alone unless it leaves the ids as they are
  induction calls using List.reverseRecOn with
  | nil =>
    have hempty : s.office.frames.find? p f = none := by
      rw [Frames.find?, hs]
      rfl
    simp only [List.map_nil, Session.after, hempty, not_isLive_nil, false_and, reduceCtorEq]
  | append_singleton calls call ih =>
    rw [List.map_append, List.map_singleton, Session.after_append]
    change ((Session.perform call.operation).run _).2.office.frames.find? p f = some x ↔ _
    rw [isLive_concat]
    by_cases hchanges : call.Changes p f
    · rw [find?_of_changes hchanges]
      constructor
      · rintro ⟨hregisters, hids⟩
        exact ⟨.inl hregisters, hids⟩
      · rintro ⟨hregisters | ⟨hnot, -⟩, rfl, rfl⟩
        · exact ⟨hregisters, rfl, rfl⟩
        · exact absurd hchanges hnot
    · rw [find?_of_not_changes hchanges, ih]
      constructor
      · rintro ⟨hlive, rfl, rfl⟩
        exact ⟨.inr ⟨hchanges, hlive⟩, rfl, rfl⟩
      · rintro ⟨hregisters | ⟨-, hlive⟩, rfl, rfl⟩
        · exact absurd hregisters.changes hchanges
        · exact ⟨hlive, rfl, rfl⟩

end FrameCall

open FrameCall in
/-- After any calls of a registry that was empty, a look-up of ids finds the frame that was
registered under them last, by a call after which none has registered or unregistered them, and no
other one. To unregister the ids succeeds just if a look-up would have found a frame. A call with an
id that cannot be read fails, for the first such id, and changes nothing. -/
theorem last_registration_stands (s : Session) (hs : s.office.frames.entries = [])
    (calls : List FrameCall) :
    let t := s.after (calls.map operation)
    (∀ process frame : Value, ∀ p f : Int, process.toInt = .ok p → frame.toInt = .ok f →
      ∃ found : Option Frame,
        (Session.perform (.lookupFrame process frame)).run t = (.ok (.frame found), t) ∧
        (∀ x, found = some x ↔ IsLive calls x ∧ x.processId = p ∧ x.frameId = f) ∧
        ((Session.perform (.unregisterFrame process frame)).run t).1 =
          .ok (.flag found.isSome) ∧
        ∀ url, ((Session.perform (.registerFrame process frame url)).run t).1 =
          .ok (.frame (some ⟨p, f, url⟩))) ∧
      ∀ call : FrameCall, ∀ e, call.Fails e →
        (Session.perform call.operation).run t = (.error e, t) := by
  intro t
  refine ⟨fun process frame p f hp hf => ?_, fun call e hfails => run_of_fails hfails t⟩
  have hread := Frames.readIds_ok hp hf
  refine ⟨t.office.frames.find? p f, ?_, fun x => find?_after s hs calls p f x, ?_, fun url => ?_⟩
  · rw [Session.run_lookupFrame, hread]
  · rw [Session.run_unregisterFrame, hread]
  · rw [Session.run_registerFrame, hread]

open FrameCall in
/-- A frame that is registered again under other spellings of its ids, and a call that fails for the
second one. -/
theorem last_registration_stands_respelled :
    let calls := [register (.text " +7") (.bool true) (.text "old"),
      register (.int 7) (.text "0_1\n") (.text "new"), unregister (.text "7") (.text "x"),
      lookup (.int 7) (.int 1)]
    let t := ({} : Session).after (calls.map operation)
    ({} : Session).office.frames.entries = [] ∧
      (Session.perform (.lookupFrame (.int 7) (.bool true))).run t =
        (.ok (.frame (some ⟨7, 1, .text "new"⟩)), t) ∧
      ((Session.perform (.unregisterFrame (.int 7) (.bool true))).run t).1 = .ok (.flag true) ∧
      (Session.perform (.registerFrame .null (.int 1) (.text ""))).run t =
        (.error (.noIntegerFrom "NoneType"), t) := by
  intro calls t
  obtain ⟨hcalls, hfails⟩ := last_registration_stands {} rfl calls
  obtain ⟨found, hlookup, hfound, hunregister, _⟩ := hcalls (.int 7) (.bool true) 7 1 rfl rfl
  have hlater : ∀ c ∈ [unregister (.text "7") (.text "x"), lookup (.int 7) (.int 1)],
      ¬c.Changes 7 1 := by
    intro c hc hchanges
    simp only [List.mem_cons, List.not_mem_nil, or_false] at hc
    rcases hc with rfl | rfl
    · exact nomatch hchanges.1.2
    · exact hchanges.2 _ _ rfl
  have hlive : IsLive calls ⟨7, 1, .text "new"⟩ :=
    ⟨[_], _, _, rfl, ⟨⟨rfl, rfl⟩, _, _, rfl⟩, hlater⟩
  have hnew := (hfound _).mpr ⟨hlive, rfl, rfl⟩
  subst hnew
  exact ⟨rfl, hlookup, hunregister, hfails (register .null (.int 1) (.text "")) _ (.inl rfl)⟩

end CaptureArbiter
