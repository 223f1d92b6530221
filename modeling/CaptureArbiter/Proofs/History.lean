import CaptureArbiter.Proofs.Quiet

/-!
# Histories of sessions

An invariant of the office that is stable is kept by everything that arbiters, offices and sessions
do, so it holds after every list of operations. A steady one is kept by everything that makes no new
callback.
-/

namespace CaptureArbiter

open Act

/-- An invariant of the office that nothing breaks but a new callback, provided that callbacks are
run only with results that satisfy `V`. -/
structure Office.Steady (V : Given → Prop) (Q : Office → Prop) : Prop where
  named : ∀ {o}, Q o → o.consent.Says V
  desk : ∀ o : Office, Desk.Steady V fun d => Q { o with desk := d }
  audio : ∀ {o c} devices, o.catalog.setAudio devices = .ok c → Q o → Q { o with catalog := c }
  video : ∀ {o c} devices, o.catalog.setVideo devices = .ok c → Q o → Q { o with catalog := c }
  frames : ∀ {o : Office} f, Q o → Q { o with frames := f }
  handler : ∀ {o script c}, (Operation.setHandler script).Says V →
    o.consent.setHandler script = .ok c → Q o → Q { o with consent := c }

theorem Office.Steady.quiet {V : Given → Prop} {Q : Office → Prop} (hQ : Office.Steady V Q) :
    Office.Quiet V Q where
  noted notes h := (hQ.desk _).noted notes h
  audio := hQ.audio
  video := hQ.video
  frames := hQ.frames
  handler := hQ.handler

/-- An invariant of the office that nothing breaks. -/
structure Office.Stable (V : Given → Prop) (Q : Office → Prop) : Prop
    extends Office.Steady V Q where
  tallied : ∀ {o : Office} t, Q o → Q { o with desk := { o.desk with tally := t } }
  added : ∀ {o : Office} {c : Callback}, c.used = false → Q o →
    Q { o with desk := { o.desk with callbacks := o.desk.callbacks ++ [c] } }

/-- The operations that make a new callback. -/
def Operation.makesCallback : Operation → Bool
  | .offer .. | .handle .. => true
  | _ => false

variable {V : Given → Prop} {Q : Office → Prop}

namespace Office.Steady

variable (hQ : Office.Steady V Q)
include hQ

omit hQ in
theorem keeps_onCustody {α : Type} {a : Act Custody α}
    (ha : ∀ o : Office, Keeps (fun c => Q { o with desk := c.desk }) a) :
    Keeps (fun h : Hearing => Q h.office) (Hearing.onCustody a) :=
  fun h hh => ha h.office h.custody hh

omit hQ in
theorem keeps_onHearingDesk {α : Type} {a : Act Desk α}
    (ha : ∀ o : Office, Keeps (fun d => Q { o with desk := d }) a) :
    Keeps (fun h : Hearing => Q h.office) (Hearing.onDesk a) :=
  keeps_onCustody fun o => Desk.Steady.keeps_onDesk (ha o)

omit hQ in
theorem keeps_enter (phase : Phase) : Keeps (fun h : Hearing => Q h.office) (Hearing.enter phase) :=
  .modify fun _ h => h

theorem keeps_noted (notes : List Note) :
    Keeps (fun h : Hearing => Q h.office) (Hearing.onDesk (Desk.note notes)) :=
  keeps_onHearingDesk fun o => (hQ.desk o).keeps_note notes

theorem keeps_resolve (devices : List Device) {result : Given} (hv : V result) :
    Keeps (fun h : Hearing => Q h.office) (Hearing.resolve devices result) := by
  refine .bind_get fun h _ => .bind (.ofExcept _) fun _ => .bind (hQ.keeps_noted _) fun _ => ?_
  have hfire := keeps_onCustody (Q := Q) fun o => (hQ.desk o).keeps_fire devices hv
  exact .bind hfire fun _ => keeps_enter _

theorem keeps_resolve_outcome (devices : List Device) (outcome : Outcome) :
    Keeps (fun h : Hearing => Q h.office) (Hearing.resolve devices outcome) :=
  fun h hh => hQ.keeps_resolve devices ((hQ.desk h.office).named outcome) h hh

theorem keeps_accept : Keeps (fun h : Hearing => Q h.office) Hearing.accept := by
  refine .bind_get fun h _ => .bind (hQ.keeps_noted _) fun _ => ?_
  exact .bind (.ofExcept _) fun devices => hQ.keeps_resolve_outcome devices .ok

theorem keeps_denyNamed (code : Value) :
    Keeps (fun h : Hearing => Q h.office) (Hearing.denyNamed code) :=
  .bind (.ofExcept _) fun outcome => hQ.keeps_resolve_outcome [] outcome

theorem keeps_close : Keeps (fun h : Hearing => Q h.office) Hearing.close :=
  keeps_onCustody fun o => (hQ.desk o).keeps_close

theorem keeps_runScreen : Keeps (fun h : Hearing => Q h.office) Hearing.runScreen := by
  refine .bind (keeps_enter _) fun _ => .bind_get fun h _ => .bind (hQ.keeps_noted _) fun _ => ?_
  refine .bind (.ofExcept _) fun devices => .bind (hQ.keeps_noted _) fun _ => ?_
  exact hQ.keeps_resolve_outcome devices _

theorem keeps_abandon : Keeps (fun h : Hearing => Q h.office) Hearing.abandon :=
  .bind_get fun _ _ => .bind (hQ.keeps_noted _) fun _ => keeps_enter _

theorem keeps_decide : Keeps (fun h : Hearing => Q h.office) Hearing.decide := by
  refine .bind (keeps_enter _) fun _ => .bind_get fun h _ => ?_
  exact .ite hQ.keeps_accept (hQ.keeps_resolve_outcome [] .noHardware)

theorem keeps_runOffered (frame : Frame) :
    Keeps (fun h : Hearing => Q h.office) (Hearing.runOffered frame) := by
  have hpeek : Keeps (fun h : Hearing => Q h.office) (Hearing.onCustody Custody.peek) :=
    keeps_onCustody fun o => Desk.Steady.keeps_peek (P := fun d => Q { o with desk := d })
  have hoff : Keeps (fun h : Hearing => Q h.office) (Hearing.onCustody Custody.handOff) :=
    keeps_onCustody fun o => Desk.Steady.keeps_handOff (P := fun d => Q { o with desk := d })
  refine .bind (keeps_enter _) fun _ => .bind hpeek fun id => .bind_get fun h hh => ?_
  have hoffer := keeps_onHearingDesk (Q := Q) fun o =>
    (hQ.desk o).keeps_offer (hQ.named hh) h.arbiter.request id
  refine .bind hoffer fun claim => .ite ?_ hQ.keeps_decide
  exact .bind hoff fun _ => .bind (keeps_enter _) fun _ => hQ.keeps_noted _

theorem keeps_run : Keeps (fun h : Hearing => Q h.office) Hearing.run := by
  refine .bind_get fun h _ => ?_
  have hread : Keeps (fun h : Hearing => Q h.office)
      (Act.get >>= fun h : Hearing => (pure h.arbiter.phase : Act Hearing Phase)) :=
    .bind_get fun h _ => .pure _
  refine .ite (.bind (.fail _) fun _ => hread) (.ite (.bind hQ.keeps_runScreen fun _ => hread) ?_)
  cases h.office.frames.find? h.arbiter.request.processId h.arbiter.request.frameId with
  | none => exact .bind hQ.keeps_abandon fun _ => hread
  | some frame => exact .bind (hQ.keeps_runOffered frame) fun _ => hread

theorem keeps_scopedRun : Keeps (fun h : Hearing => Q h.office) Hearing.scopedRun :=
  .bind (.attempt hQ.keeps_run) fun _ => .bind hQ.keeps_close fun _ => .ofExcept _

theorem keeps_hear (request : Request) (id : Nat) : Keeps Q (Office.hear request id) :=
  fun o ho => hQ.keeps_scopedRun ⟨o, { request, held := some id }⟩ ho

omit hQ in
theorem keeps_onOfficeDesk {α : Type} {a : Act Desk α}
    (ha : ∀ o : Office, Keeps (fun d => Q { o with desk := d }) a) : Keeps Q (Office.onDesk a) :=
  fun o ho => ha o o.desk ho

omit hQ in
theorem keeps_onHearing {α : Type} (name : String) {a : Act Hearing α}
    (ha : Keeps (fun h : Hearing => Q h.office) a) :
    Keeps (fun s : Session => Q s.office) (Session.onHearing name a) := by
  intro s hs
  simp only [Act.run, Session.onHearing]
  cases s.arbiter with
  | none => exact hs
  | some arbiter => exact ha ⟨s.office, arbiter⟩ hs

theorem keeps_drop : Keeps (fun s : Session => Q s.office) Session.drop := by
  refine .bind_get fun s _ => .ite ?_ (.pure _)
  refine .bind (.attempt (keeps_onHearing "close" hQ.keeps_close)) fun _ => ?_
  exact .bind (.modify fun _ h => h) fun _ => .pure _

theorem keeps_runParked (index : Int) (devices : List Device) {result : Given} (hv : V result) :
    Keeps (fun s : Session => Q s.office) (Session.perform (.runParked index devices result)) := by
  have hrun := keeps_onOfficeDesk fun o => (hQ.desk o).keeps_runParked index devices hv
  exact .bind (Office.Quiet.keeps_onOffice hrun) fun _ => .pure _

theorem keeps_operation {op : Operation} (hop : op.Says V) (hc : op.makesCallback = false) :
    Keeps (fun s : Session => Q s.office) (Session.perform op) := by
  cases hq : op.isQuiet with
  | true => exact hQ.quiet.keeps_quiet hop hq
  | false =>
    cases op with
    | runParked index devices result => exact hQ.keeps_runParked index devices hop
    | run => exact .bind (keeps_onHearing _ hQ.keeps_run) fun _ => .pure _
    | scopedRun => exact .bind (keeps_onHearing _ hQ.keeps_scopedRun) fun _ => .pure _
    | close => exact .bind (keeps_onHearing _ hQ.keeps_close) fun _ => .pure _
    | accept => exact .bind (keeps_onHearing _ hQ.keeps_accept) fun _ => .pure _
    | deny code => exact .bind (keeps_onHearing _ (hQ.keeps_denyNamed code)) fun _ => .pure _
    | denyWith result => exact .bind (keeps_onHearing _ (hQ.keeps_resolve [] hop)) fun _ => .pure _
    | drop => exact hQ.keeps_drop
    | offer request label sink => cases hc
    | handle request sink => cases hc
    | _ => cases hq

end Office.Steady

namespace Office.Stable

variable (hQ : Office.Stable V Q)
include hQ

theorem keeps_add {c : Callback} (hc : c.used = false) : Keeps Q (Office.onDesk (Desk.add c)) :=
  fun _ ho => hQ.added hc ho

theorem keeps_tallied (f : Tally → Tally) : Keeps Q (Office.tallied f) :=
  .modify fun _ h => hQ.tallied _ h

theorem keeps_offer (request : Value) (label : String) (sink : Sink) :
    Keeps Q (Office.offer request label sink) := by
  refine .bind (.ofExcept _) fun r => .bind (hQ.keeps_add rfl) fun id => .bind_get fun o ho => ?_
  have hoffer := Office.Steady.keeps_onOfficeDesk (Q := Q) fun p =>
    (hQ.desk p).keeps_offer (hQ.named ho) r id
  exact .bind hoffer fun claim => .bind_get fun _ _ => .pure _

theorem keeps_handle (request : Request) (sink : Sink) : Keeps Q (Office.handle request sink) := by
  refine .bind (hQ.keeps_tallied _) fun _ => .bind_get fun o _ => ?_
  refine .bind (hQ.keeps_add rfl) fun id => ?_
  refine .bind (hQ.keeps_hear request id) fun phase => .ite ?_ (.pure _)
  exact .bind (hQ.keeps_tallied _) fun _ => .pure _

theorem keeps_operation {op : Operation} (hop : op.Says V) :
    Keeps (fun s : Session => Q s.office) (Session.perform op) := by
  cases hc : op.makesCallback with
  | false => exact hQ.toSteady.keeps_operation hop hc
  | true =>
    cases op with
    | offer request label sink =>
      exact Office.Quiet.keeps_onOffice (hQ.keeps_offer request label sink)
    | handle request sink =>
      refine .bind (.ofExcept _) fun r => ?_
      exact .bind (Office.Quiet.keeps_onOffice (hQ.keeps_handle r sink)) fun _ => .pure _
    | _ => cases hc

theorem after {s : Session} {ops : List Operation} (hops : ∀ op ∈ ops, op.Says V)
    (hs : Q s.office) : Q (s.after ops).office :=
  Session.keeps_after (fun op hop => hQ.keeps_operation (hops op hop)) hs

end Office.Stable

/-- The authority says only what satisfies `V`, and the desk satisfies `P`. -/
def Office.Holds (V : Given → Prop) (P : Desk → Prop) (o : Office) : Prop :=
  o.consent.Says V ∧ P o.desk

theorem Consent.says_setHandler {script : Option (List Play)} {c c' : Consent}
    (hs : (Operation.setHandler script).Says V) (h : c.setHandler script = .ok c') :
    c'.Says V := by
  cases c with
  | handler old =>
    simp only [Consent.setHandler, Except.ok.injEq] at h
    subst h
    cases script with
    | none => trivial
    | some plays => exact hs
  | decline | policy blocked | scripted plays claim => simp [Consent.setHandler] at h

theorem Desk.Steady.holds {P : Desk → Prop} (hP : Desk.Steady V P) :
    Office.Steady V (Office.Holds V P) where
  named h := h.1
  desk _ :=
    { named := hP.named
      noted := fun notes h => ⟨h.1, hP.noted notes h.2⟩
      parked := fun ids h => ⟨h.1, hP.parked ids h.2⟩
      wasted := fun hc hu hv he h => ⟨h.1, hP.wasted hc hu hv he h.2⟩
      settled := fun devices o hc hu h => ⟨h.1, hP.settled devices o hc hu h.2⟩ }
  audio _ _ h := h
  video _ _ h := h
  frames _ h := h
  handler hs hc h := ⟨Consent.says_setHandler hs hc, h.2⟩

theorem Desk.Stable.holds {P : Desk → Prop} (hP : Desk.Stable V P) :
    Office.Stable V (Office.Holds V P) where
  toSteady := hP.toSteady.holds
  tallied t h := ⟨h.1, hP.tallied t h.2⟩
  added hc h := ⟨h.1, hP.added hc h.2⟩

theorem Desk.Stable.after {P : Desk → Prop} (hP : Desk.Stable (fun _ => True) P) {s : Session}
    (hs : P s.office.desk) (ops : List Operation) : P (s.after ops).office.desk :=
  (hP.holds.after (fun op _ => op.says_true) ⟨Consent.says_true _, hs⟩).2

end CaptureArbiter
