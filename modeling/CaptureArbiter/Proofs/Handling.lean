import CaptureArbiter.Proofs.AtMostOnce
import CaptureArbiter.Proofs.Ending

/-!
# Handling requests

A service that handles a request counts it, makes a fresh callback for it and hears it; if the frame
was gone, it counts that, too. What a service was configured with stays through its whole life: the
kind of its authority, the blocked origins and the preferred devices.
-/

namespace CaptureArbiter

open Act

/-- The counters after a request has been answered. -/
def Tally.answered (t : Tally) : Except Failure Phase → Tally
  | .ok .abandonedNoFrame => { t with abandoned := t.abandoned + 1 }
  | _ => t

namespace Office

/-- The callback that a service makes for a request. -/
def newCallback (o : Office) (r : Request) (sink : Sink) : Callback :=
  let number := o.desk.tally.total + 1
  { label := "request-" ++ Decimal.ofNat number, ticket := some ⟨number, r.securityOrigin⟩, sink }

/-- The office after a request has been counted and its callback been made. -/
def opened (o : Office) (r : Request) (sink : Sink) : Office :=
  { o with desk :=
    { o.desk with
      tally := o.desk.tally.opened
      callbacks := o.desk.callbacks ++ [o.newCallback r sink] } }

/-- The hearing that a request gets. -/
def hearing (o : Office) (r : Request) (sink : Sink) : Hearing :=
  ⟨o.opened r sink, { request := r, held := some o.desk.callbacks.length }⟩

theorem fresh_hearing (o : Office) (r : Request) (sink : Sink) :
    (o.hearing r sink).Fresh o.desk.callbacks.length (o.newCallback r sink) where
  held := rfl
  there := List.getElem?_concat_length ..
  unused := rfl

theorem run_handle (r : Request) (sink : Sink) (o : Office) :
    (handle r sink).run o =
      let y := Hearing.scopedRun.run (o.hearing r sink)
      let d := y.2.office.desk
      (y.1, { y.2.office with desk := { d with tally := d.tally.answered y.1 } }) := by
  have hhear : (hear r o.desk.callbacks.length).run (o.opened r sink) =
      ((Hearing.scopedRun.run (o.hearing r sink)).1,
        (Hearing.scopedRun.run (o.hearing r sink)).2.office) := rfl
  have hcount : (tallied Tally.opened).run o =
      (.ok (), { o with desk := { o.desk with tally := o.desk.tally.opened } }) := rfl
  have hadd : (onDesk (Desk.add (o.newCallback r sink))).run
      { o with desk := { o.desk with tally := o.desk.tally.opened } } =
        (.ok o.desk.callbacks.length, o.opened r sink) := rfl
  rw [handle, run_bind_ok hcount, run_bind_ok (run_get _)]
  refine (run_bind_ok hadd).trans ?_
  cases hy : Hearing.scopedRun.run (o.hearing r sink) with
  | mk answer h =>
    rw [hy] at hhear
    cases answer with
    | error e => exact run_bind_error hhear
    | ok phase =>
      rw [run_bind_ok hhear, run_ite]
      cases phase <;> rfl

end Office

/-- The office works with what it was configured with. -/
structure Office.Configured (origins : List String) (audioId videoId : String) (o : Office) :
    Prop where
  consent : o.consent.ConfiguredWith origins
  audio : o.catalog.defaultAudioId = audioId
  video : o.catalog.defaultVideoId = videoId

theorem Consent.configuredWith_setHandler {origins : List String} {script : Option (List Play)}
    {c c' : Consent} (hc : c.ConfiguredWith origins) (h : c.setHandler script = .ok c') :
    c'.ConfiguredWith origins := by
  cases c with
  | handler old =>
    simp only [Consent.setHandler, Except.ok.injEq] at h
    subst h
    exact hc
  | decline | policy blocked | scripted plays claim => simp [Consent.setHandler] at h

theorem Catalog.eq_of_checkKind {kind : StreamKind} {devices : List Device}
    {f : List Device → Catalog} {c : Catalog}
    (h : (checkKind kind devices >>= fun checked => pure (f checked)) = .ok c) :
    c = f devices := by
  cases hk : checkKind kind devices with
  | error e =>
    rw [hk] at h
    cases h
  | ok checked =>
    rw [hk, (checkKind_eq_ok hk).1] at h
    exact (Except.ok.inj h).symm

theorem Catalog.setAudio_eq_ok {c c' : Catalog} {devices : List Device}
    (h : c.setAudio devices = .ok c') : c' = { c with audio := devices } :=
  eq_of_checkKind (f := fun checked => { c with audio := checked }) h

theorem Catalog.setVideo_eq_ok {c c' : Catalog} {devices : List Device}
    (h : c.setVideo devices = .ok c') : c' = { c with video := devices } :=
  eq_of_checkKind (f := fun checked => { c with video := checked }) h

theorem Office.Configured.stable (origins : List String) (audioId videoId : String) :
    Office.Stable (fun _ => True) (Office.Configured origins audioId videoId) where
  named _ := Consent.says_true _
  desk _ :=
    { named := fun _ => trivial
      noted := fun _ h => ⟨h.consent, h.audio, h.video⟩
      parked := fun _ h => ⟨h.consent, h.audio, h.video⟩
      wasted := fun _ _ _ _ h => ⟨h.consent, h.audio, h.video⟩
      settled := fun _ _ _ _ h => ⟨h.consent, h.audio, h.video⟩ }
  audio _ hc h := by
    rw [Catalog.setAudio_eq_ok hc]
    exact ⟨h.consent, h.audio, h.video⟩
  video _ hc h := by
    rw [Catalog.setVideo_eq_ok hc]
    exact ⟨h.consent, h.audio, h.video⟩
  frames _ h := ⟨h.consent, h.audio, h.video⟩
  handler _ hc h := ⟨Consent.configuredWith_setHandler h.consent hc, h.audio, h.video⟩
  tallied _ h := ⟨h.consent, h.audio, h.video⟩
  added _ h := ⟨h.consent, h.audio, h.video⟩

theorem Session.deliversOnce_service (o : Office) :
    (Session.service o).office.desk.DeliversOnce :=
  fun _ => Nat.zero_le _

/-- A callback that is not yet on the desk has received nothing, after any history of a service. -/
theorem Session.received_next (o : Office) (ops : List Operation) :
    let d := ((Session.service o).after ops).office.desk
    d.received d.callbacks.length = [] := by
  have honce := Desk.DeliversOnce.stable.after (Session.deliversOnce_service o) ops
  exact honce.received_of_unused (Desk.isUsed_of_le (Nat.le_refl _))

theorem Session.configured_after {o : Office} {origins : List String}
    (hconsent : o.consent.ConfiguredWith origins) (ops : List Operation) :
    ((Session.service o).after ops).office.Configured origins o.catalog.defaultAudioId
      o.catalog.defaultVideoId :=
  (Office.Configured.stable origins _ _).after (fun op _ => op.says_true)
    ⟨hconsent, rfl, rfl⟩

end CaptureArbiter
