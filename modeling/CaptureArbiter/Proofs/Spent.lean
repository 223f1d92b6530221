import CaptureArbiter.CallbackOperation
import CaptureArbiter.Proofs.Conservation
import CaptureArbiter.Proofs.Release

/-!
# Spent callbacks

The first run of a callback spends it. If the result of that run names an outcome, the sink has
received it, and else the sink will never receive anything: no later run, no holder that is closed
and no authority makes up for it. As long as all results name outcomes, what is spent has been
delivered, and the pending requests of a service are those whose callbacks can still be run.
-/

namespace CaptureArbiter

open Act

theorem Callback.deliveriesOf_ne_nil_iff {c : Callback} {id : Nat} {devices : List Device}
    {result : Given} : c.deliveriesOf id devices result ≠ [] ↔ result.NamesOutcome := by
  unfold deliveriesOf Given.NamesOutcome
  cases result.toOutcome <;> simp

namespace CallbackSession

def received (s : CallbackSession) : List Delivery := s.custody.desk.received s.callback

/-- The callback of the session has been spent. -/
def Spent (xs : List Delivery) (s : CallbackSession) : Prop :=
  s.custody.desk.Spent s.callback xs

variable {s : CallbackSession} {xs : List Delivery} {P : Desk → Prop}

theorem keeps_onHolder {α : Type} (name : String) (k : Nat) {a : Act Custody α}
    (ha : Keeps (fun c : Custody => P c.desk) a) :
    Keeps (fun s : CallbackSession => s.callback = k ∧ P s.custody.desk) (onHolder name a) := by
  intro s hs
  simp only [Act.run, onHolder]
  split
  · exact hs
  · exact ⟨hs.1, ha s.custody hs.2⟩

theorem keeps_perform (hP : Desk.Steady (fun _ => True) P) (k : Nat) (op : CallbackOperation) :
    Keeps (fun s : CallbackSession => s.callback = k ∧ P s.custody.desk) (perform op) := by
  cases op with
  | run devices result =>
    refine .bind_get fun s _ => .bind ?_ fun _ => .pure _
    have hrun : Keeps P (Desk.runCallback s.callback devices result) :=
      hP.keeps_runCallback s.callback devices trivial
    exact .zoom (fun _ h => h.2) (fun _ _ h hc => ⟨h.1, hc⟩) (Desk.Steady.keeps_onDesk hrun)
  | fire devices result =>
    exact .bind (keeps_onHolder _ k (hP.keeps_fire devices trivial)) fun _ => .pure _
  | display => exact .bind_get fun _ _ => .pure _
  | peek =>
    refine .bind (keeps_onHolder _ k Desk.Steady.keeps_peek) fun id => ?_
    exact .bind_get fun _ _ => .pure _
  | handOff =>
    refine .bind (keeps_onHolder _ k Desk.Steady.keeps_handOff) fun id => ?_
    exact .bind_get fun _ _ => .pure _
  | close => exact .bind (keeps_onHolder _ k hP.keeps_close) fun _ => .pure _
  | drop =>
    refine .bind (.attempt (keeps_onHolder _ k hP.keeps_close)) fun _ => ?_
    exact .bind (.modify fun _ h => h) fun _ => .pure _

theorem Spent.after (h : s.Spent xs) (ops : List CallbackOperation) :
    (s.after ops).Spent xs := by
  induction ops generalizing s with
  | nil => exact h
  | cons op ops ih =>
    have hstep := keeps_perform (Desk.Spent.stable s.callback xs).toSteady s.callback op s ⟨rfl, h⟩
    apply ih
    rw [Spent, hstep.1]
    exact hstep.2

theorem run_run (devices : List Device) (result : Given) (s : CallbackSession) :
    ((perform (.run devices result)).run s).2 = { s with custody :=
      ⟨s.custody.held, ((Desk.runCallback s.callback devices result).run s.custody.desk).2⟩ } := by
  rw [perform, run_bind_ok (run_get s)]
  exact congrArg Prod.snd (run_bind_pure _ (fun _ => Reply.nothing) s)

theorem run_onHolder {α : Type} (name : String) (a : Act Custody α) (hs : s.isDropped = false) :
    (onHolder name a).run s =
      ((a.run s.custody).1, { s with custody := (a.run s.custody).2 }) := by
  rw [Act.run, onHolder, hs]
  rfl

theorem run_close (hs : s.isDropped = false) :
    ((perform .close).run s).2 = { s with custody := (Custody.close.run s.custody).2 } := by
  rw [perform, run_bind_pure, run_onHolder _ _ hs]

theorem callback_start (label : String) (sink : Sink) (wraps : Bool) :
    (start label sink wraps).custody.desk.callbacks[(start label sink wraps).callback]? =
      some { label, sink } := by
  cases wraps <;> rfl

theorem received_start (label : String) (sink : Sink) (wraps : Bool) :
    (start label sink wraps).received = [] := by
  cases wraps <;> rfl

theorem spent_after_run (label : String) (sink : Sink) (wraps : Bool) (devices : List Device)
    (result : Given) (ops : List CallbackOperation) :
    ((start label sink wraps).after (.run devices result :: ops)).Spent
      (Callback.deliveriesOf { label, sink } 0 devices result) := by
  have hspent := Desk.spent_runCallback (callback_start label sink wraps) rfl
    (received_start label sink wraps) devices result
  have hstep : ((perform (.run devices result)).run (start label sink wraps)).2.Spent
      (Callback.deliveriesOf { label, sink } 0 devices result) := by
    rw [Spent, run_run]
    cases wraps <;> exact hspent
  exact hstep.after ops

theorem spent_after_close (label : String) (sink : Sink) :
    ((start label sink false).after [.close]).Spent [⟨0, none, [], .failedDueToShutdown⟩] := by
  let direct : Callback := { label, sink }
  let d := (start label sink false).custody.desk.noted [Custody.closingNote label]
  have hthere : d.callbacks[0]? = some direct := rfl
  have hspent := Desk.spent_runCallback hthere rfl rfl [] (.ofOutcome .failedDueToShutdown)
  rw [Callback.deliveriesOf_outcome] at hspent
  change ((perform .close).run (start label sink false)).2.Spent _
  rw [Spent, run_close rfl, Custody.run_close]
  exact hspent

end CallbackSession

theorem Desk.DeliversExactly.isUsed_iff {d : Desk} (h : d.DeliversExactly) (id : Nat) :
    d.isUsed id = true ↔ d.received id ≠ [] := by
  have hid := h id
  rw [← List.length_pos_iff]
  cases hu : d.isUsed id <;> simp [hu] at hid ⊢ <;> omega

/-- If nothing has been spent in vain, the pending requests are those that can still be run. -/
theorem Desk.Audited.pending_eq_unused {answers : List (Except Failure Reply)} {d : Desk}
    (h : d.Audited answers) (he : d.DeliversExactly) :
    d.tally.pending = (List.range d.callbacks.length).countP fun id => !d.isUsed id := by
  have hheard : ∀ k, d.isHeard k = d.isUsed k := by
    intro k
    rw [Bool.eq_iff_iff, he.isUsed_iff, h.isHeard_iff, received_ne_nil_iff]
  have hused : (List.range answers.length).countP d.isUsed = d.deliveries.length := by
    rw [← h.countP_isHeard]
    exact List.countP_congr fun k _ => by rw [hheard]
  have hsplit := List.length_eq_countP_add_countP d.isUsed (l := List.range answers.length)
  simp only [Bool.not_eq_true, Bool.decide_eq_false, List.length_range] at hsplit
  have hpending := h.pending
  rw [← h.listed] at hpending ⊢
  omega

theorem Desk.Audited.pending_of_vain {answers : List (Except Failure Reply)} {d : Desk} {id : Nat}
    (h : d.Audited answers) (hid : id < d.callbacks.length) (hvain : d.Spent id []) :
    0 < d.tally.pending := by
  have hlt : id < answers.length := by rw [h.listed]; exact hid
  have hunheard : d.isHeard id = false := by
    rw [← Bool.not_eq_true, h.isHeard_iff, ← received_ne_nil_iff]
    exact fun hne => hne hvain.received
  have hopen : d.isOpen answers id = true := by
    rw [h.isOpen_eq hlt, hunheard]
    rfl
  have hcount : 0 < (List.range answers.length).countP (d.isOpen answers) :=
    List.countP_pos_iff.mpr ⟨id, List.mem_range.mpr hlt, hopen⟩
  rw [h.pending_eq]
  omega

/-- Nothing that a service is asked later resolves such a request. -/
theorem pending_for_ever {o : Office} {origins : List String} {ops more : List Operation} {id : Nat}
    (hconsent : o.consent.ConfiguredWith origins) (hops : ∀ op ∈ ops ++ more, op.isOffer = false)
    (hid : id < ((Session.service o).after ops).office.desk.callbacks.length)
    (hvain : ((Session.service o).after ops).office.desk.Spent id []) :
    let d := ((Session.service o).after (ops ++ more)).office.desk
    d.Spent id [] ∧ 0 < d.tally.pending := by
  have haudit := Session.audited_after hops hconsent (Session.audited_service o)
  have hlater := (Desk.Spent.stable id []).after hvain more
  have hknown := (Desk.Recalls.stable.after (Desk.recalls_self hid) more).1
  rw [← Session.after_append] at hlater hknown
  exact ⟨hlater, haudit.pending_of_vain hknown hlater⟩

/-- The first run of a callback spends it. Its sink has received what that run delivers, and nothing
that is done afterwards changes that, so the callback is used exactly if something was delivered,
unless the first result names no outcome. A holder that is closed before any run delivers. While a
service hears only results that name outcomes, each of its callbacks is used exactly if its sink has
received something, its pending requests are those with unused callbacks, and each of these delivers
when it is run. -/
theorem spent_by_first_run (label : String) (sink : Sink) (wraps : Bool)
    (runs : List (List Device × Given)) (o : Office) (origins : List String) (ops : List Operation)
    (hconsent : o.consent.ConfiguredWith origins) (hauthority : o.consent.Says Given.NamesOutcome)
    (hops : ∀ op ∈ ops, op.isOffer = false ∧ op.Says Given.NamesOutcome) :
    let ran := (CallbackSession.start label sink wraps).after (runs.map fun x => .run x.1 x.2)
    let d := ((Session.service o).after ops).office.desk
    (ran.hasRun = true ↔ runs ≠ []) ∧
      ran.received = runs.head?.toList.flatMap (fun x =>
        Callback.deliveriesOf { label, sink } 0 x.1 x.2) ∧
      ((ran.hasRun = true ↔ ran.received ≠ []) ↔ ∀ x ∈ runs.head?, x.2.NamesOutcome) ∧
      (runs ≠ [] → ∀ more, (ran.after more).hasRun = true ∧
        (ran.after more).received = ran.received) ∧
      (runs = [] → wraps = false →
        (ran.after [.close]).received = [⟨0, none, [], .failedDueToShutdown⟩]) ∧
      (∀ id, d.isUsed id = true ↔ d.received id ≠ []) ∧
      d.tally.pending = (List.range d.callbacks.length).countP (fun id => !d.isUsed id) ∧
      ∀ id c, d.callbacks[id]? = some c → c.used = false → ∀ devices outcome,
        ((Desk.runCallback id devices (.ofOutcome outcome)).run d).2.received id =
          [c.delivery id devices outcome] := by
  intro ran d
  have hexact : d.DeliversExactly :=
    (Desk.DeliversExactly.stable.holds.after (fun op hop => (hops op hop).2)
      ⟨hauthority, fun _ => rfl⟩).2
  have haudit := Session.audited_after (fun op hop => (hops op hop).1) hconsent
    (Session.audited_service o)
  have hservice : (∀ id, d.isUsed id = true ↔ d.received id ≠ []) ∧
      d.tally.pending = (List.range d.callbacks.length).countP (fun id => !d.isUsed id) ∧
      ∀ id c, d.callbacks[id]? = some c → c.used = false → ∀ devices outcome,
        ((Desk.runCallback id devices (.ofOutcome outcome)).run d).2.received id =
          [c.delivery id devices outcome] := by
    refine ⟨hexact.isUsed_iff, haudit.pending_eq_unused hexact, ?_⟩
    intro id c hc hu devices outcome
    have hnone : d.received id = [] :=
      haudit.once.received_of_unused ((Desk.isUsed_eq hc).trans hu)
    have hspent := Desk.spent_runCallback hc hu hnone devices (.ofOutcome outcome)
    rw [hspent.received, Callback.deliveriesOf_outcome]
  cases runs with
  | nil =>
    have hunused : ran.hasRun = false := by cases wraps <;> rfl
    have hnothing : ran.received = [] := CallbackSession.received_start label sink wraps
    refine ⟨by simp [hunused], by simp [hnothing], by simp [hunused, hnothing], by simp, ?_,
      hservice⟩
    rintro - rfl
    exact (CallbackSession.spent_after_close label sink).received
  | cons x xs =>
    have hspent := CallbackSession.spent_after_run label sink wraps x.1 x.2
      (xs.map fun x => .run x.1 x.2)
    have hused : ran.hasRun = true := hspent.used
    have hreceived : ran.received = Callback.deliveriesOf { label, sink } 0 x.1 x.2 :=
      hspent.received
    refine ⟨by simp [hused], by simp [hreceived], ?_, ?_, by simp, hservice⟩
    · simp [hused, hreceived, Callback.deliveriesOf_ne_nil_iff]
    · intro _ more
      have hlater := hspent.after more
      exact ⟨hlater.used, hlater.received.trans hreceived.symm⟩

/-- Two runs, the first of them with no outcome, deliver nothing, also once the holder is closed. A
handler that parks its callback leaves the request pending until the callback is run. -/
theorem spent_by_first_run_parked :
    let runs : List (List Device × Given) :=
      [([], .plain (.text "NOPE")), ([], .plain (.text "OK"))]
    let ran := (CallbackSession.start "cb" .accept false).after (runs.map fun x => .run x.1 x.2)
    let o : Office :=
      { consent := .handler (some [.park]), frames := ⟨[{ processId := 7, frameId := 1 }]⟩ }
    let live : Value :=
      .map [(.text "render_process_id", .int 7), (.text "render_frame_id", .int 1)]
    let ops : List Operation := [.handle live .accept]
    let d := ((Session.service o).after ops).office.desk
    o.consent.ConfiguredWith [] ∧ o.consent.Says Given.NamesOutcome ∧
      (∀ op ∈ ops, op.isOffer = false ∧ op.Says Given.NamesOutcome) ∧
      ran.hasRun = true ∧ ran.received = [] ∧ (ran.after [.close]).received = [] ∧
      d.tally.pending = 1 ∧ ∃ c, d.callbacks[0]? = some c ∧
        ((Desk.runCallback 0 [] (.ofOutcome .ok)).run d).2.received 0 = [c.delivery 0 [] .ok] := by
  intro runs ran o live ops d
  have hconsent : o.consent.ConfiguredWith [] := rfl
  have hauthority : o.consent.Says Given.NamesOutcome := by
    intro play hplay
    rw [List.mem_singleton.mp hplay]
    trivial
  have hops : ∀ op ∈ ops, op.isOffer = false ∧ op.Says Given.NamesOutcome := by
    intro op hop
    rw [List.mem_singleton.mp hop]
    exact ⟨rfl, trivial⟩
  obtain ⟨hused, hreceived, _, hlater, _, _, hpending, hunused⟩ :=
    spent_by_first_run "cb" .accept false runs o [] ops hconsent hauthority hops
  have hruns : runs ≠ [] := List.cons_ne_nil _ _
  have hnothing : ran.received = [] := hreceived.trans (by rfl)
  have hone : (List.range d.callbacks.length).countP (fun id => !d.isUsed id) = 1 := by
    decide +kernel
  have hthere : ∃ c, d.callbacks[0]? = some c ∧ c.used = false := ⟨_, rfl, rfl⟩
  obtain ⟨c, hc, hu⟩ := hthere
  rw [hone] at hpending
  exact ⟨hconsent, hauthority, hops, hused.mpr hruns, hnothing,
    (hlater hruns [.close]).2.trans hnothing, hpending, c, hc, hunused 0 c hc hu [] .ok⟩

/-- A result that names no outcome uses the callback up without a delivery, and neither a later run
nor the holder delivers. A handler that fails this way leaves its request pending. -/
theorem callback_used_up_in_vain :
    let ran := (CallbackSession.start "cb" .accept false).after [.run [] (.plain (.text "NOPE"))]
    let o : Office :=
      { consent := .handler (some [.run [] (.plain (.text "NOPE"))])
        frames := ⟨[{ processId := 7, frameId := 1 }]⟩ }
    let live : Value :=
      .map [(.text "render_process_id", .int 7), (.text "render_frame_id", .int 1)]
    let d := ((Session.service o).after [.handle live .accept]).office.desk
    ran.hasRun = true ∧ ran.received = [] ∧
      (ran.after [.run [] (.plain (.text "OK")), .close]).received = [] ∧
      d.isUsed 0 = true ∧ d.deliveries = [] ∧ d.tally.pending = 1 := by
  decide +kernel

end CaptureArbiter
