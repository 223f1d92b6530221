import CaptureArbiter.Proofs.Ending
import CaptureArbiter.Proofs.Phases
import CaptureArbiter.Proofs.Sent

/-!
# Claimed requests

Once the authority has claimed a request, its arbiter is at rest: it holds nothing, and nothing that
is asked of it has an effect beyond the log. The sink hears of runs of the callback only, those that
the authority made and later those of the parked callback.
-/

namespace CaptureArbiter

open Act

namespace Hearing

/-- The arbiter is the given one, and the desk is as given but for the log. -/
structure Idles (b : Arbiter) (d : Desk) (h : Hearing) : Prop where
  arbiter : h.arbiter = b
  desk : h.office.Logs d

variable {b : Arbiter} {d : Desk} {h : Hearing}

theorem Idles.noted (hi : h.Idles b d) (notes : List Note) : (h.noted notes).Idles b d :=
  ⟨hi.arbiter, (Office.Logs.quiet d).noted notes hi.desk⟩

theorem idles_resolve (hb : b.held = none) (devices : List Device) (result : Given) :
    Keeps (Idles b d) (resolve devices result) := by
  intro h hi
  cases hs : result.valueText with
  | error e =>
    rw [run_resolve_error hs]
    exact hi
  | ok shown =>
    rw [run_resolve hs, hi.arbiter, hb]
    exact hi.noted _

theorem idles_accept (hb : b.held = none) : Keeps (Idles b d) accept := by
  intro h hi
  have hconsulted : h.consulted.Idles b d := hi.noted _
  cases hd : h.selected with
  | ok devices =>
    rw [run_accept_ok hd]
    exact idles_resolve hb devices Outcome.ok _ hconsulted
  | error e =>
    rw [run_accept_error hd]
    exact hconsulted

theorem idles_denyNamed (hb : b.held = none) (code : Value) :
    Keeps (Idles b d) (denyNamed code) :=
  .bind (.ofExcept _) fun o => idles_resolve hb [] o

theorem idles_close (hb : b.held = none) : Keeps (Idles b d) close := by
  intro h hi
  rw [run_close, hi.arbiter, hb]
  exact hi

theorem idles_run (hp : b.phase ≠ .pending) : Keeps (Idles b d) run := by
  intro h hi
  rw [← hi.arbiter] at hp
  rw [run_of_left hp]
  exact hi

theorem idles_scopedRun (hp : b.phase ≠ .pending) (hb : b.held = none) :
    Keeps (Idles b d) scopedRun :=
  .bind (.attempt (idles_run hp)) fun _ => .bind (idles_close hb) fun _ => .ofExcept _

end Hearing

namespace Session

/-- What is left of the arbiter is as given, and so is the desk but for the log. -/
structure Idles (b : Option Arbiter) (d : Desk) (s : Session) : Prop where
  arbiter : s.arbiter = b
  desk : s.office.Logs d

variable {b : Option Arbiter} {d : Desk} {s : Session}

theorem Idles.self (s : Session) : s.Idles s.arbiter s.office.desk :=
  ⟨rfl, .self s.office⟩

theorem idles_onHearing {α : Type} (name : String) {a : Act Hearing α}
    (ha : ∀ c ∈ b, Keeps (Hearing.Idles c d) a) : Keeps (Idles b d) (onHearing name a) := by
  intro s hi
  cases hb : s.arbiter with
  | none =>
    have hsame : ((onHearing name a).run s).2 = s := by simp only [onHearing, Act.run, hb]
    rw [hsame]
    exact hi
  | some c =>
    have hc : b = some c := hi.arbiter.symm.trans hb
    have hidle := ha c hc ⟨s.office, c⟩ ⟨rfl, hi.desk⟩
    rw [run_onHearing name a hb]
    exact ⟨by rw [hidle.arbiter, hc], hidle.desk⟩

theorem idles_perform (hb : ∀ c ∈ b, c.phase ≠ .pending ∧ c.held = none) {op : Operation}
    (huses : op.usesArbiter = true) (hop : op ≠ .drop) : Keeps (Idles b d) (perform op) := by
  cases op with
  | run =>
    exact .bind (idles_onHearing "run" fun c hc => Hearing.idles_run (hb c hc).1) fun _ => .pure _
  | scopedRun =>
    refine .bind (idles_onHearing "run" fun c hc => ?_) fun _ => .pure _
    exact Hearing.idles_scopedRun (hb c hc).1 (hb c hc).2
  | close =>
    exact .bind (idles_onHearing "close" fun c hc => Hearing.idles_close (hb c hc).2) fun _ =>
      .pure _
  | accept =>
    exact .bind (idles_onHearing "accept" fun c hc => Hearing.idles_accept (hb c hc).2) fun _ =>
      .pure _
  | deny code =>
    refine .bind (idles_onHearing "deny" fun c hc => ?_) fun _ => .pure _
    exact Hearing.idles_denyNamed (hb c hc).2 code
  | denyWith result =>
    refine .bind (idles_onHearing "deny" fun c hc => ?_) fun _ => .pure _
    exact Hearing.idles_resolve (hb c hc).2 [] result
  | drop => exact absurd rfl hop
  | _ => cases huses

theorem Idles.drop (hi : s.Idles b d) (hb : ∀ c ∈ b, c.held = none) :
    ((perform .drop).run s).2.Idles none d := by
  have hclose := idles_onHearing "close" (fun c hc => Hearing.idles_close (hb c hc)) s hi
  change (Session.drop.run s).2.Idles none d
  rw [Session.drop, run_bind_ok (run_get s), run_ite]
  split
  · exact ⟨rfl, hclose.desk⟩
  · rename_i hnone
    exact ⟨Option.not_isSome_iff_eq_none.mp hnone, hi.desk⟩

end Session

/-- There is one callback, and all deliveries are to its sink. -/
structure Desk.Single (d : Desk) : Prop where
  one : d.callbacks.length = 1
  own : ∀ x ∈ d.deliveries, x.callback = 0

theorem Desk.Single.steady : Desk.Steady (fun _ => True) Desk.Single where
  named _ := trivial
  noted _ h := ⟨h.one, h.own⟩
  parked _ h := ⟨h.one, h.own⟩
  wasted _ _ _ _ h := ⟨(Desk.length_markUsed ..).trans h.one, h.own⟩
  settled {d id c} devices o hc _ h := by
    have hid := Desk.lt_of_callback hc
    rw [h.one] at hid
    refine ⟨?_, fun x hx => ?_⟩
    · rw [Desk.callbacks_settle, Desk.length_markUsed]
      exact h.one
    · rw [Desk.deliveries_settle, List.mem_append, List.mem_singleton] at hx
      rcases hx with hx | rfl
      · exact h.own x hx
      · simp only
        omega

theorem Desk.Sends.own {S : Delivery → Prop} {d e : Desk} (h : Desk.Sends S d e) (he : e.Single) :
    Desk.Sends (fun x => x.callback = 0 ∧ S x) d e := by
  obtain ⟨new, hnew, hS⟩ := h
  refine ⟨new, hnew, fun x hx => ⟨he.own x ?_, hS x hx⟩⟩
  rw [hnew]
  exact List.mem_append_right _ hx

/-- The operation runs this callback, which is parked, and makes the delivery. -/
def Operation.Releases (d : Desk) (id : Nat) (x : Delivery) : Operation → Prop
  | .runParked index devices result => d.parkedAt? index = some id ∧ x.Carries devices result
  | _ => False

theorem Session.sends_runParked {s : Session} (hs : s.office.desk.Single) (index : Int)
    (devices : List Device) (result : Given) :
    Desk.Sends (fun x => (Operation.runParked index devices result).Releases s.office.desk 0 x)
      s.office.desk ((perform (.runParked index devices result)).run s).2.office.desk := by
  rw [run_runParked, Desk.runParked, run_bind_ok (run_get _)]
  cases hparked : s.office.desk.parkedAt? index with
  | none => exact Desk.sends_of_eq rfl
  | some id =>
    cases id with
    | zero =>
      exact (Desk.sends_runCallback 0 devices result s.office.desk).mono fun x hx => ⟨hparked, hx⟩
    | succ id =>
      have hunknown : s.office.desk.callbacks[id + 1]? = none :=
        List.getElem?_eq_none (by rw [hs.one]; omega)
      simp only
      rw [Desk.run_runCallback, hunknown]
      exact Desk.sends_of_eq rfl

/-- The arbiter of a request after the authority has claimed it. -/
def Arbiter.claimed (r : Request) : Arbiter :=
  { request := r, phase := .delegatedToConsent, held := none }

namespace Session

structure Claimed (r : Request) (s : Session) : Prop where
  single : s.office.desk.Single
  arbiter : ∀ a ∈ s.arbiter, a = .claimed r

variable {r : Request} {s : Session} {op : Operation}

theorem Claimed.rests (h : s.Claimed r) :
    ∀ a ∈ s.arbiter, a.phase ≠ .pending ∧ a.held = none := by
  intro a ha
  rw [h.arbiter a ha]
  exact ⟨Phase.noConfusion, rfl⟩

theorem Claimed.idles (h : s.Claimed r) (huses : op.usesArbiter = true) (hop : op ≠ .drop) :
    ((perform op).run s).2.Idles s.arbiter s.office.desk :=
  idles_perform h.rests huses hop s (.self s)

theorem Claimed.idles_drop (h : s.Claimed r) :
    ((perform .drop).run s).2.Idles none s.office.desk :=
  (Idles.self s).drop fun a ha => (h.rests a ha).2

theorem Claimed.arbiter_eq (h : s.Claimed r) (hop : op ≠ .drop) :
    ((perform op).run s).2.arbiter = s.arbiter := by
  cases huses : op.usesArbiter with
  | true => exact (h.idles huses hop).arbiter
  | false => exact arbiter_perform huses s

theorem Claimed.logs (h : s.Claimed r) (huses : op.usesArbiter = true) :
    ((perform op).run s).2.office.Logs s.office.desk := by
  by_cases hop : op = .drop
  · subst hop
    exact h.idles_drop.desk
  · exact (h.idles huses hop).desk

theorem claimed_perform (hop : op.makesCallback = false) : Keeps (Claimed r) (perform op) := by
  intro s h
  have hsingle := Desk.Single.steady.holds.keeps_operation op.says_true hop s
    ⟨Consent.says_true _, h.single⟩
  refine ⟨hsingle.2, ?_⟩
  by_cases hdrop : op = .drop
  · subst hdrop
    rw [h.idles_drop.arbiter]
    exact fun a ha => nomatch ha
  · rw [h.arbiter_eq hdrop]
    exact h.arbiter

theorem Claimed.after (h : s.Claimed r) {ops : List Operation}
    (hops : ∀ op ∈ ops, op.makesCallback = false) : (s.after ops).Claimed r :=
  keeps_after (fun op hop => claimed_perform (hops op hop)) h

theorem Claimed.arbiter_after (h : s.Claimed r) {ops : List Operation}
    (hops : ∀ op ∈ ops, op.makesCallback = false) (hdrop : ∀ op ∈ ops, op ≠ .drop) :
    (s.after ops).arbiter = s.arbiter := by
  have hkeeps : ∀ op ∈ ops,
      Keeps (fun t : Session => t.Claimed r ∧ t.arbiter = s.arbiter) (Session.perform op) := by
    rintro op hop t ⟨ht, hsame⟩
    exact ⟨claimed_perform (hops op hop) t ht, (ht.arbiter_eq (hdrop op hop)).trans hsame⟩
  exact (keeps_after hkeeps ⟨h, rfl⟩).2

theorem Claimed.sends (h : s.Claimed r) (hop : op.makesCallback = false) :
    Desk.Sends (fun x => x.callback = 0 ∧ op.Releases s.office.desk 0 x) s.office.desk
      ((Session.perform op).run s).2.office.desk := by
  have hlogs {t : Session} (ht : t.office.Logs s.office.desk) :
      Desk.Sends (fun x => op.Releases s.office.desk 0 x) s.office.desk t.office.desk := by
    obtain ⟨notes, hnotes⟩ := ht
    exact Desk.sends_of_eq (by rw [hnotes]; rfl)
  refine Desk.Sends.own ?_ (claimed_perform hop s h).single
  -- an operation is asked of the arbiter, of the surroundings or of a parked callback
  cases huses : op.usesArbiter with
  | true => exact hlogs (h.logs huses)
  | false =>
    cases hquiet : op.isQuiet with
    | true => exact hlogs (logs_quiet hquiet s)
    | false =>
      cases op with
      | runParked index devices result => exact sends_runParked h.single index devices result
      | offer request label sink => cases hop
      | handle request sink => cases hop
      | run | scopedRun | close | accept | deny _ | denyWith _ | drop => cases huses
      | _ => cases hquiet

end Session

/-- The authority claims the request when it is offered the callback. -/
def Consent.Claims (c : Consent) (r : Request) (id : Nat) (d : Desk) : Prop :=
  ∃ claim, ((c.offer r id).run d).1 = .ok claim ∧ claim.isTruthy = true

theorem Consent.claims_handler (script : List Play) (r : Request) (id : Nat) (d : Desk) :
    (Consent.handler (some script)).Claims r id d :=
  ⟨_, run_offer_handler script r id d, rfl⟩

namespace Hearing

theorem run_of_claim {h : Hearing} {id : Nat} {frame : Frame} (hp : h.arbiter.phase = .pending)
    (hs : h.arbiter.request.isScreenCapture = false)
    (hframe : h.office.frames.find? h.arbiter.request.processId h.arbiter.request.frameId =
      some frame) (hh : h.arbiter.held = some id)
    (hc : h.office.consent.Claims h.arbiter.request id h.office.desk) :
    run.run h = (.ok .delegatedToConsent,
      ((h.released ((h.office.consent.offer h.arbiter.request id).run h.office.desk).2).entered
        .delegatedToConsent).noted [claimedNote frame]) := by
  obtain ⟨claim, hclaim, htrue⟩ := hc
  have hrun := run_runOffered frame h
  rw [hh, ← branch_offered hp hs hframe] at hrun
  simp only at hrun
  cases hr : (h.office.consent.offer h.arbiter.request id).run h.office.desk with
  | mk answer d =>
    rw [hr] at hrun hclaim
    simp only at hclaim
    subst hclaim
    simp only [if_pos htrue] at hrun
    rw [run_run, hrun]
    rfl

end Hearing

namespace Session

variable {o : Office} {r : Request} {label : String} {sink : Sink} {frame : Frame}

theorem run_of_claim (hs : r.isScreenCapture = false)
    (hframe : o.frames.find? r.processId r.frameId = some frame)
    (hc : o.consent.Claims r 0 (arbitration o r label sink).office.desk) :
    ((perform .run).run (arbitration o r label sink)).1 = .ok (.phase .delegatedToConsent) ∧
      ((arbitration o r label sink).after [.run]).arbiter = some (.claimed r) ∧
      ((arbitration o r label sink).after [.run]).office.desk =
        (((o.consent.offer r 0).run (arbitration o r label sink).office.desk).2.noted
          [Hearing.claimedNote frame]) := by
  have hheard := Hearing.run_of_claim
    (h := ⟨(arbitration o r label sink).office, { request := r, held := some 0 }⟩) rfl hs hframe rfl
    hc
  have hrun := run_onHearing "run" Hearing.run (s := arbitration o r label sink) rfl
  rw [hheard] at hrun
  have hperform : (perform .run).run (arbitration o r label sink) = _ := run_bind_ok hrun
  refine ⟨?_, ?_, ?_⟩
  · rw [hperform]
    rfl
  · rw [after, hperform]
    rfl
  · rw [after, hperform]
    rfl

theorem single_arbitration (o : Office) (r : Request) (label : String) (sink : Sink)
    {op : Operation} (hop : op.makesCallback = false) :
    ((perform op).run (arbitration o r label sink)).2.office.desk.Single := by
  have hstart : (arbitration o r label sink).office.desk.Single := ⟨rfl, fun x hx => nomatch hx⟩
  have hkeeps := Desk.Single.steady.holds.keeps_operation op.says_true hop
  exact (hkeeps _ ⟨Consent.says_true _, hstart⟩).2

theorem claimed_run (hs : r.isScreenCapture = false)
    (hframe : o.frames.find? r.processId r.frameId = some frame)
    (hc : o.consent.Claims r 0 (arbitration o r label sink).office.desk) :
    ((arbitration o r label sink).after [.run]).Claimed r := by
  obtain ⟨_, harbiter, _⟩ := run_of_claim hs hframe hc
  refine ⟨single_arbitration o r label sink rfl, fun a ha => ?_⟩
  rw [harbiter] at ha
  exact (Option.some.inj ha).symm

end Session

/-- A new arbiter runs for a request of a live frame that is not for a screen. A handler always
claims the request, however its script goes. Once the authority has claimed the request, the run
answers so, the arbiter keeps its last phase and holds nothing as long as it lives, and what is
asked of it changes the log only. The sink receives what the authority's plays and later the runs of
the parked callback carry, and nothing else. -/
theorem claim_excludes_arbiter (o : Office) (r : Request) (label : String) (sink : Sink)
    (frame : Frame) (hs : r.isScreenCapture = false)
    (hframe : o.frames.find? r.processId r.frameId = some frame) :
    let fresh := Session.arbitration o r label sink
    let claimed := fresh.after [.run]
    (∀ script, o.consent = .handler (some script) → o.consent.Claims r 0 fresh.office.desk) ∧
      (o.consent.Claims r 0 fresh.office.desk →
        ((Session.perform .run).run fresh).1 = .ok (.phase .delegatedToConsent) ∧
        claimed.arbiter = some (.claimed r) ∧
        (∀ x ∈ claimed.office.desk.deliveries,
          x.callback = 0 ∧ ∃ play ∈ o.consent.plays, play.Gives x) ∧
        ∀ ops, (∀ op ∈ ops, op.makesCallback = false) →
          ((∀ op ∈ ops, op ≠ .drop) → (claimed.after ops).arbiter = some (.claimed r)) ∧
          ∀ op, op.makesCallback = false →
            let before := (claimed.after ops).office
            let later := ((Session.perform op).run (claimed.after ops)).2.office
            (op.usesArbiter = true → later.Logs before.desk) ∧
            Desk.Sends (fun x => x.callback = 0 ∧ op.Releases before.desk 0 x) before.desk
              later.desk) := by
  intro fresh claimed
  refine ⟨fun script hscript => ?_, fun hc => ?_⟩
  · rw [hscript]
    exact Consent.claims_handler script r 0 fresh.office.desk
  · obtain ⟨hanswer, harbiter, hdesk⟩ := Session.run_of_claim hs hframe hc
    have hclaimed : claimed.Claimed r := Session.claimed_run hs hframe hc
    refine ⟨hanswer, harbiter, fun x hx => ?_, fun ops hops => ⟨fun hdrop => ?_, fun op hop => ?_⟩⟩
    · -- there was no delivery before the authority was asked, and none after it had claimed
      refine ⟨hclaimed.single.own x hx, ?_⟩
      obtain ⟨new, hnew, hgives⟩ := o.consent.sends_offer r 0 fresh.office.desk
      have hall : claimed.office.desk.deliveries = new := by
        rw [hdesk]
        exact hnew
      exact hgives x (hall ▸ hx)
    · exact (hclaimed.arbiter_after hops hdrop).trans harbiter
    · have hthen := hclaimed.after hops
      exact ⟨hthen.logs, hthen.sends hop⟩

/-- A handler parks the callback and fails. Whatever is asked of the arbiter then comes to nothing,
and a run of the parked callback delivers to a sink that fails. -/
theorem claim_excludes_arbiter_parked :
    let frame : Frame := { processId := 7, frameId := 1 }
    let o : Office :=
      { consent := .handler (some [.park, .fail (.scripted "broken")]), frames := ⟨[frame]⟩ }
    let r : Request := { processId := 7, frameId := 1, audio := .deviceAudio }
    let sink : Sink := .fail (.scripted "sink")
    let camera : Device := ⟨.deviceVideo, "cam", ""⟩
    let claimed := (Session.arbitration o r "" sink).after [.run]
    let used := claimed.after [.accept, .denyWith (.ofOutcome .ok), .scopedRun, .close]
    let op : Operation := .runParked (-1) [camera] (.ofOutcome .ok)
    let later := ((Session.perform op).run used).2.office
    r.isScreenCapture = false ∧ o.frames.find? r.processId r.frameId = some frame ∧
      used.arbiter = some (.claimed r) ∧ used.office.desk.deliveries = [] ∧
      later.desk.deliveries = [⟨0, none, [camera], .ok⟩] ∧
      Desk.Sends (fun x => x.callback = 0 ∧ op.Releases used.office.desk 0 x) used.office.desk
        later.desk := by
  intro frame o r sink camera claimed used op later
  have hs : r.isScreenCapture = false := by decide +kernel
  have hframe : o.frames.find? r.processId r.frameId = some frame := rfl
  obtain ⟨hhandler, hclaim⟩ := claim_excludes_arbiter o r "" sink frame hs hframe
  obtain ⟨_, _, _, hafter⟩ := hclaim (hhandler _ rfl)
  have hops : ∀ op ∈ [Operation.accept, .denyWith (.ofOutcome .ok), .scopedRun, .close],
      op.makesCallback = false ∧ op ≠ .drop := by
    intro op hop
    simp only [List.mem_cons, List.not_mem_nil, or_false] at hop
    rcases hop with rfl | rfl | rfl | rfl <;> exact ⟨rfl, Operation.noConfusion⟩
  obtain ⟨harbiter, hnext⟩ := hafter _ fun op hop => (hops op hop).1
  refine ⟨hs, hframe, harbiter fun op hop => (hops op hop).2, ?_, ?_, (hnext op rfl).2⟩
  · decide +kernel
  · decide +kernel

end CaptureArbiter
