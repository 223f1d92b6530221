import CaptureArbiter.Proofs.Stable

/-!
# Operations on the surroundings

Changes of devices, of frames and of the handler run no callback and leave the arbiter alone, so of
the desk they change the log only. `Office.Quiet` says that an invariant survives them.
-/

namespace CaptureArbiter

open Act

/-- An invariant of the office that notes and changes of its surroundings do not break, provided
that new handlers run callbacks only with results that satisfy `V`. -/
structure Office.Quiet (V : Given → Prop) (Q : Office → Prop) : Prop where
  noted : ∀ {o : Office} notes, Q o → Q { o with desk := o.desk.noted notes }
  audio : ∀ {o c} devices, o.catalog.setAudio devices = .ok c → Q o → Q { o with catalog := c }
  video : ∀ {o c} devices, o.catalog.setVideo devices = .ok c → Q o → Q { o with catalog := c }
  frames : ∀ {o : Office} f, Q o → Q { o with frames := f }
  handler : ∀ {o script c}, (Operation.setHandler script).Says V →
    o.consent.setHandler script = .ok c → Q o → Q { o with consent := c }

namespace Operation

/-- The operations that ask or change the surroundings of arbiters. -/
def isQuiet : Operation → Bool
  | .setAudio _ | .setVideo _ | .list | .findAudio _ | .findVideo _ | .first | .defaultDevices
  | .neededDefaults _ _ | .hasAny | .registerFrame _ _ _ | .unregisterFrame _ _ | .lookupFrame _ _
  | .setHandler _ | .stats => true
  | _ => false

/-- The operations on the arbiter. -/
def usesArbiter : Operation → Bool
  | .run | .scopedRun | .close | .accept | .deny _ | .denyWith _ | .drop => true
  | _ => false

end Operation

namespace Office.Quiet

variable {V : Given → Prop} {Q : Office → Prop} (hQ : Office.Quiet V Q)
include hQ

theorem keeps_officeNote (notes : List Note) : Keeps Q (Office.onDesk (Desk.note notes)) :=
  fun _ ho => hQ.noted notes ho

theorem keeps_changeDevices (what : String) {change : Catalog → Except Failure Catalog}
    (devices : List Device)
    (hc : ∀ {o c}, change o.catalog = .ok c → Q o → Q { o with catalog := c }) :
    Keeps Q (Office.changeDevices what change devices) := by
  intro o ho
  rw [Office.changeDevices, run_bind_ok (run_get o)]
  cases hr : change o.catalog with
  | error e => exact ho
  | ok c =>
    have hnote := hQ.keeps_officeNote [Catalog.changedNote what devices] _ (hc hr ho)
    rw [run_bind_ok (run_ofExcept ..), run_bind_ok (run_modify ..)]
    exact hnote

omit hQ in
theorem keeps_askCatalog (question : Catalog → Reply) : Keeps Q (Office.askCatalog question) :=
  .bind_get fun _ _ => .pure _

theorem keeps_registerFrame (process frame url : Value) :
    Keeps Q (Office.registerFrame process frame url) := by
  refine .bind_get fun o _ => .bind (.ofExcept _) fun registered => ?_
  refine .bind (.modify fun _ h => hQ.frames _ h) fun _ => ?_
  exact .bind (hQ.keeps_officeNote _) fun _ => .pure _

theorem keeps_unregisterFrame (process frame : Value) :
    Keeps Q (Office.unregisterFrame process frame) := by
  refine .bind_get fun o _ => .bind (.ofExcept _) fun removed => ?_
  refine .bind (.modify fun _ h => hQ.frames _ h) fun _ => .ite ?_ (.pure _)
  exact .bind (hQ.keeps_officeNote _) fun _ => .pure _

omit hQ in
theorem keeps_onOffice {α : Type} {a : Act Office α} (ha : Keeps Q a) :
    Keeps (fun s : Session => Q s.office) (Session.onOffice a) :=
  .zoom (fun _ h => h) (fun _ _ _ h => h) ha

theorem keeps_setHandler {script : Option (List Play)}
    (hs : (Operation.setHandler script).Says V) :
    Keeps (fun s : Session => Q s.office) (Session.perform (.setHandler script)) := by
  intro s hq
  rw [Session.perform, run_bind_ok (run_get s)]
  cases hr : s.office.consent.setHandler script with
  | error e => exact hq
  | ok c =>
    rw [run_bind_ok (run_ofExcept ..)]
    exact hQ.handler hs hr hq

theorem keeps_quiet {op : Operation} (hop : op.Says V) (hq : op.isQuiet = true) :
    Keeps (fun s : Session => Q s.office) (Session.perform op) := by
  cases op with
  | setAudio devices =>
    exact keeps_onOffice (hQ.keeps_changeDevices "Audio" devices (hQ.audio devices))
  | setVideo devices =>
    exact keeps_onOffice (hQ.keeps_changeDevices "Video" devices (hQ.video devices))
  | list | findAudio id | findVideo id | first | defaultDevices | neededDefaults audio video
  | hasAny => exact keeps_onOffice (keeps_askCatalog _)
  | registerFrame process frame url =>
    exact keeps_onOffice (hQ.keeps_registerFrame process frame url)
  | unregisterFrame process frame => exact keeps_onOffice (hQ.keeps_unregisterFrame process frame)
  | lookupFrame process frame => exact .bind_get fun _ _ => .bind (.ofExcept _) fun _ => .pure _
  | setHandler script => exact hQ.keeps_setHandler hop
  | stats => exact .pure _
  | run | scopedRun | close | accept | deny _ | denyWith _ | drop | runParked _ _ _ | offer _ _ _
  | handle _ _ => cases hq

end Office.Quiet

/-- The desk is as it was, but for the log. -/
def Office.Logs (d : Desk) (o : Office) : Prop := ∃ notes, o.desk = d.noted notes

theorem Office.Logs.self (o : Office) : o.Logs o.desk :=
  ⟨[], by simp only [Desk.noted, List.append_nil]⟩

theorem Office.Logs.quiet (d : Desk) : Office.Quiet (fun _ => True) (Office.Logs d) where
  noted notes h := by
    obtain ⟨old, hold⟩ := h
    refine ⟨old ++ notes, ?_⟩
    simp only [hold, Desk.noted, List.append_assoc]
  audio _ _ h := h
  video _ _ h := h
  frames _ h := h
  handler _ _ h := h

namespace Session

theorem keeps_after {P : Session → Prop} {ops : List Operation}
    (h : ∀ op ∈ ops, Keeps P (perform op)) {s : Session} (hs : P s) : P (s.after ops) := by
  induction ops generalizing s with
  | nil => exact hs
  | cons op ops ih =>
    have hop := h op (List.mem_cons_self ..)
    exact ih (fun x hx => h x (List.mem_cons_of_mem _ hx)) (hop s hs)

theorem logs_quiet {op : Operation} (hq : op.isQuiet = true) (s : Session) :
    ((perform op).run s).2.office.Logs s.office.desk :=
  (Office.Logs.quiet s.office.desk).keeps_quiet op.says_true hq s (.self s.office)

theorem run_runParked (index : Int) (devices : List Device) (result : Given) (s : Session) :
    (perform (.runParked index devices result)).run s =
      (((Desk.runParked index devices result).run s.office.desk).1.map fun _ => Reply.nothing,
        { s with office := { s.office with
          desk := ((Desk.runParked index devices result).run s.office.desk).2 } }) :=
  run_bind_pure _ (fun _ => Reply.nothing) s

theorem run_onHearing {α : Type} (name : String) (a : Act Hearing α) {s : Session} {b : Arbiter}
    (hb : s.arbiter = some b) :
    (onHearing name a).run s =
      ((a.run ⟨s.office, b⟩).1,
        ⟨(a.run ⟨s.office, b⟩).2.office, some (a.run ⟨s.office, b⟩).2.arbiter⟩) := by
  obtain ⟨office, arbiter⟩ := s
  cases hb
  rfl

theorem keeps_arbiter {α : Type} (b : Option Arbiter) (a : Act Office α) :
    Keeps (fun s : Session => s.arbiter = b) (onOffice a) :=
  fun _ hs => hs

theorem arbiter_perform {op : Operation} (hop : op.usesArbiter = false) (s : Session) :
    ((perform op).run s).2.arbiter = s.arbiter := by
  have hkeeps : Keeps (fun t : Session => t.arbiter = s.arbiter) (perform op) := by
    cases op with
    | setAudio _ | setVideo _ | list | findAudio _ | findVideo _ | first | defaultDevices
    | neededDefaults _ _ | hasAny | registerFrame _ _ _ | unregisterFrame _ _ | offer _ _ _ =>
      exact keeps_arbiter _ _
    | lookupFrame _ _ => exact .bind_get fun _ _ => .bind (.ofExcept _) fun _ => .pure _
    | runParked _ _ _ => exact .bind (keeps_arbiter _ _) fun _ => .pure _
    | setHandler _ =>
      refine .bind_get fun _ _ => .bind (.ofExcept _) fun _ => ?_
      exact .bind (keeps_arbiter _ _) fun _ => .pure _
    | handle _ _ =>
      refine .bind (.ofExcept _) fun _ => ?_
      exact .bind (keeps_arbiter _ _) fun _ => .pure _
    | stats => exact .pure _
    | run | scopedRun | close | accept | deny _ | denyWith _ | drop => cases hop
  exact hkeeps s rfl

end Session

end CaptureArbiter
