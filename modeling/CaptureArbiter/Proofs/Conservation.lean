import CaptureArbiter.Proofs.Audit

/-!
# Conservation of the counters

Whatever is asked of a service, its counters add up: every request that it has handled is counted
once, as pending or with the outcome that its sink has received, and the pending ones are those that
the authority has and whose sinks have received nothing.
-/

namespace CaptureArbiter

open Act

/-- Is the operation a request that can be read, so that a service handles it? -/
def Operation.isRequest : Operation → Bool
  | .handle request _ => (Request.ofValue request).toBool
  | _ => false

/-- Is a callback made without a service? -/
def Operation.isOffer : Operation → Bool
  | .offer .. => true
  | _ => false

/-- The answer to an operation, if that is a request. -/
def Session.answer (s : Session) (op : Operation) : List (Except Failure Reply) :=
  if op.isRequest then [((perform op).run s).1] else []

/-- The answers to the requests among a list of operations. -/
def Session.answers (s : Session) : List Operation → List (Except Failure Reply)
  | [] => []
  | op :: ops => s.answer op ++ ((perform op).run s).2.answers ops

/-- Has the sink of a request received anything? Requests are counted from zero here. -/
def Desk.isHeard (d : Desk) (k : Nat) : Bool := d.deliveries.any (·.ticket == some (k + 1))

/-- Has the authority been left with a request whose sink has received nothing? -/
def Desk.isOpen (d : Desk) (answers : List (Except Failure Reply)) (k : Nat) : Bool :=
  answers[k]?.any isClaim && !d.isHeard k

theorem countP_outcomes (xs : List Delivery) :
    xs.countP (·.outcome == .ok) + xs.countP (·.outcome == .noHardware) +
      xs.countP (·.outcome == .permissionDenied) +
      xs.countP (·.outcome == .failedDueToShutdown) = xs.length := by
  induction xs with
  | nil => rfl
  | cons x xs ih =>
    simp only [List.countP_cons, List.length_cons]
    cases x.outcome <;> simp <;> omega

namespace Desk.Audited

variable {answers : List (Except Failure Reply)} {d : Desk}

theorem isHeard_iff (h : d.Audited answers) (k : Nat) :
    d.isHeard k = true ↔ ∃ x ∈ d.deliveries, x.callback = k := by
  simp only [isHeard, List.any_eq_true, beq_iff_eq]
  constructor
  · rintro ⟨x, hx, hk⟩
    have hticket := (h.ticketed x hx).2
    rw [hk, Option.some.injEq] at hticket
    exact ⟨x, hx, by omega⟩
  · rintro ⟨x, hx, rfl⟩
    exact ⟨x, hx, (h.ticketed x hx).2⟩

/-- No two deliveries came through one callback, so they are counted by the requests. -/
theorem countP_isHeard (h : d.Audited answers) :
    (List.range answers.length).countP d.isHeard = d.deliveries.length := by
  have hnodup : (d.deliveries.map (·.callback)).Nodup := by
    rw [List.nodup_iff_count]
    intro id
    have honce := h.once.length_received_le id
    rw [received, ← List.countP_eq_length_filter] at honce
    rw [List.count, List.countP_map]
    exact honce
  -- neither list repeats anything, so they are as long as each other if they have the same members
  have hperm : (d.deliveries.map (·.callback)).Perm
      ((List.range answers.length).filter d.isHeard) := by
    refine (List.perm_ext_iff_of_nodup hnodup (List.nodup_range.filter _)).mpr fun k => ?_
    rw [List.mem_filter, List.mem_range, h.isHeard_iff, List.mem_map, h.listed]
    constructor
    · rintro ⟨x, hx, rfl⟩
      exact ⟨(h.ticketed x hx).1, x, hx, rfl⟩
    · rintro ⟨_, hk⟩
      exact hk
  rw [List.countP_eq_length_filter, ← hperm.length_eq, List.length_map]

theorem isOpen_eq (h : d.Audited answers) {k : Nat} (hk : k < answers.length) :
    d.isOpen answers k = !d.isHeard k := by
  rw [isOpen, List.getElem?_eq_getElem hk, Option.any_some]
  cases hclaim : isClaim answers[k] with
  | true => rfl
  | false =>
    have hne := h.settled (List.getElem?_eq_getElem hk) hclaim
    have hheard := (h.isHeard_iff k).mpr (received_ne_nil_iff.mp hne)
    rw [hheard]
    rfl

theorem pending_eq (h : d.Audited answers) :
    d.tally.pending = (List.range answers.length).countP (d.isOpen answers) := by
  have hopen : (List.range answers.length).countP (d.isOpen answers) =
      (List.range answers.length).countP fun k => !d.isHeard k :=
    List.countP_congr fun k hk => by rw [h.isOpen_eq (List.mem_range.mp hk)]
  have hsplit := List.length_eq_countP_add_countP d.isHeard (l := List.range answers.length)
  simp only [Bool.not_eq_true, Bool.decide_eq_false, List.length_range] at hsplit
  have hpending := h.pending
  rw [h.countP_isHeard, ← hopen, h.listed] at hsplit
  rw [h.listed]
  omega

theorem balance (h : d.Audited answers) :
    (d.tally.total : Int) = d.tally.pending + (d.tally.ok + d.tally.noHardware +
      d.tally.permissionDenied + d.tally.failedDueToShutdown : Nat) := by
  have hsum := countP_outcomes d.deliveries
  have hok : d.tally.ok = _ := h.counted .ok
  have hno : d.tally.noHardware = _ := h.counted .noHardware
  have hdenied : d.tally.permissionDenied = _ := h.counted .permissionDenied
  have hshut : d.tally.failedDueToShutdown = _ := h.counted .failedDueToShutdown
  have hpending := h.pending
  rw [h.total, hok, hno, hdenied, hshut]
  omega

end Desk.Audited

namespace Session

variable {s : Session} {origins : List String} {answers : List (Except Failure Reply)}

theorem run_request {request : Value} {r : Request} (hr : Request.ofValue request = .ok r)
    (sink : Sink) (s : Session) :
    (perform (.handle request sink)).run s =
      (((Office.handle r sink).run s.office).1.map Reply.phase,
        { s with office := ((Office.handle r sink).run s.office).2 }) := by
  rw [perform, hr, run_bind_ok (run_ofExcept ..), run_bind_pure]
  rfl

theorem run_unreadable {request : Value} {e : Failure} (hr : Request.ofValue request = .error e)
    (sink : Sink) (s : Session) : (perform (.handle request sink)).run s = (.error e, s) := by
  rw [perform, hr]
  exact run_bind_error (run_ofExcept ..)

theorem keeps_configured (origins : List String) (op : Operation) :
    Keeps (fun s : Session => s.office.consent.ConfiguredWith origins) (perform op) := by
  intro s hs
  have hkeeps := (Office.Configured.stable origins s.office.catalog.defaultAudioId
    s.office.catalog.defaultVideoId).keeps_operation op.says_true s ⟨hs, rfl, rfl⟩
  exact hkeeps.consent

theorem audited_perform {op : Operation} (hop : op.isOffer = false)
    (hc : s.office.consent.ConfiguredWith origins) (h : s.office.desk.Audited answers) :
    ((perform op).run s).2.office.desk.Audited (answers ++ s.answer op) := by
  -- requests aside, no operation of a service makes a callback, and the books are steady
  cases hmakes : op.makesCallback with
  | false =>
    have hrequest : op.isRequest = false := by
      cases op with
      | handle request sink => cases hmakes
      | _ => rfl
    have hkeeps := (Desk.Audited.steady answers).holds.keeps_operation op.says_true hmakes s
      ⟨Consent.says_true _, h⟩
    rw [answer, hrequest, if_neg Bool.false_ne_true, List.append_nil]
    exact hkeeps.2
  | true =>
    cases op with
    | offer request label sink => cases hop
    | handle request sink =>
      cases hr : Request.ofValue request with
      | ok r =>
        have hrequest : (Operation.handle request sink).isRequest = true := by
          rw [Operation.isRequest, hr]
          rfl
        rw [answer, hrequest, if_pos rfl, run_request hr]
        exact Office.audited_handle hc h r sink
      | error e =>
        have hrequest : (Operation.handle request sink).isRequest = false := by
          rw [Operation.isRequest, hr]
          rfl
        rw [answer, hrequest, if_neg Bool.false_ne_true, List.append_nil, run_unreadable hr]
        exact h
    | _ => cases hmakes

theorem audited_after {ops : List Operation} (hops : ∀ op ∈ ops, op.isOffer = false)
    (hc : s.office.consent.ConfiguredWith origins) (h : s.office.desk.Audited answers) :
    (s.after ops).office.desk.Audited (answers ++ s.answers ops) := by
  induction ops generalizing s answers with
  | nil =>
    rw [Session.answers, List.append_nil]
    exact h
  | cons op ops ih =>
    have hstep := audited_perform (hops op (List.mem_cons_self ..)) hc h
    have hafter := ih (fun x hx => hops x (List.mem_cons_of_mem _ hx))
      (keeps_configured origins op s hc) hstep
    rw [Session.answers, ← List.append_assoc]
    exact hafter

theorem length_answers (s : Session) (ops : List Operation) :
    (s.answers ops).length = ops.countP Operation.isRequest := by
  induction ops generalizing s with
  | nil => rfl
  | cons op ops ih =>
    rw [answers, List.length_append, ih, List.countP_cons, answer]
    cases op.isRequest <;> simp [Nat.add_comm]

theorem audited_service (o : Office) : (Session.service o).office.desk.Audited [] where
  once := deliversOnce_service o
  numbered h := nomatch h
  ticketed _ h := nomatch h
  counted outcome := by cases outcome <;> rfl
  pending := rfl
  total := rfl
  abandoned := Nat.le_refl 0
  listed := rfl
  settled h := nomatch h

theorem pending_request (hc : s.office.consent.ConfiguredWith origins)
    (h : s.office.desk.Audited answers) {request : Value} {sink : Sink}
    (hrequest : (Operation.handle request sink).isRequest = true)
    (hsink : ∀ other, sink ≠ .rerun other)
    (hclaim : isClaim ((perform (.handle request sink)).run s).1 = false) :
    ((perform (.handle request sink)).run s).2.office.desk.tally.pending =
      s.office.desk.tally.pending := by
  cases hr : Request.ofValue request with
  | error e =>
    rw [Operation.isRequest, hr] at hrequest
    cases hrequest
  | ok r =>
    have hafter := Office.audited_handle hc h r sink
    rw [run_request hr] at hclaim ⊢
    have hlisted := hafter.listed
    have hpending := hafter.pending
    have hbefore := h.pending
    have hstart := h.listed
    have hdeliveries : ((Office.handle r sink).run s.office).2.desk.deliveries.length =
        s.office.desk.deliveries.length + 1 := by
      rw [Office.run_handle] at hclaim ⊢
      by_cases hu : (s.office.hearing r sink).Unattended
      · have hends := (s.office.fresh_hearing r sink).endsWith_verdict rfl hc hu
        exact (congrArg List.length (hends.takes.only hsink)).trans List.length_append
      · simp only [(s.office.fresh_hearing r sink).claimed rfl hu] at hclaim
        cases hclaim
    rw [List.length_append, List.length_singleton] at hlisted
    simp only
    omega

end Session

/-- After any history of a service whose authority is one of the program's own: the requests are
counted in `total`, the deliveries with each outcome in that outcome's counter, the total is the
pending requests and all outcomes together, the pending requests are those that were left to the
authority and whose sinks have received nothing, so there is no negative number of them, and no more
requests are counted as abandoned than as failed due to shutdown. A further request that fails or is
answered otherwise than by a claim leaves the number of pending requests as it is. -/
theorem counters_conserved (o : Office) (origins : List String) (ops : List Operation)
    (hconsent : o.consent.ConfiguredWith origins) (hops : ∀ op ∈ ops, op.isOffer = false) :
    let s := (Session.service o).after ops
    let d := s.office.desk
    let answers := (Session.service o).answers ops
    d.tally.total = ops.countP Operation.isRequest ∧
      (∀ outcome, d.tally.count outcome = d.deliveries.countP (·.outcome == outcome)) ∧
      (d.tally.total : Int) = d.tally.pending + (d.tally.ok + d.tally.noHardware +
        d.tally.permissionDenied + d.tally.failedDueToShutdown : Nat) ∧
      d.tally.pending = (List.range answers.length).countP (d.isOpen answers) ∧
      0 ≤ d.tally.pending ∧
      d.tally.abandoned ≤ d.tally.failedDueToShutdown ∧
      (∀ request sink, (Operation.handle request sink).isRequest = true →
        (∀ other, sink ≠ .rerun other) →
        isClaim ((Session.perform (.handle request sink)).run s).1 = false →
        ((Session.perform (.handle request sink)).run s).2.office.desk.tally.pending =
          d.tally.pending) := by
  have hlength := Session.length_answers (Session.service o) ops
  have hconfigured := (Session.configured_after hconsent ops).consent
  have haudit := Session.audited_after hops hconsent (Session.audited_service o)
  rw [List.nil_append] at haudit
  have hpending := haudit.pending_eq
  intro s d answers
  refine ⟨?_, haudit.counted, haudit.balance, hpending, ?_, haudit.abandoned, ?_⟩
  · rw [← hlength, haudit.listed]
    exact haudit.total
  · rw [hpending]
    exact Int.natCast_nonneg _
  · intro request sink hrequest hsink hclaim
    exact Session.pending_request hconfigured haudit hrequest hsink hclaim

/-- Two requests are parked by a handler that fails, one of the two callbacks is run, and a third
request is abandoned: one request is pending, before and after the third. -/
theorem counters_conserved_parked :
    let o : Office :=
      { consent := .handler (some [.park, .fail (.scripted "broken")])
        frames := ⟨[{ processId := 7, frameId := 1 }]⟩ }
    let live : Value :=
      .map [(.text "render_process_id", .int 7), (.text "render_frame_id", .int 1)]
    let gone : Value := .map []
    let ops : List Operation :=
      [.handle live .accept, .handle live (.fail (.scripted "sink")),
        .runParked 1 [] (.ofOutcome .ok)]
    let s := (Session.service o).after ops
    let d := s.office.desk
    let answers := (Session.service o).answers ops
    o.consent.ConfiguredWith [] ∧ (∀ op ∈ ops, op.isOffer = false) ∧
      d.tally.pending = (List.range answers.length).countP (d.isOpen answers) ∧
      d.tally.pending = 1 ∧
      (Operation.handle gone .accept).isRequest = true ∧
      isClaim ((Session.perform (.handle gone .accept)).run s).1 = false ∧
      ((Session.perform (.handle gone .accept)).run s).2.office.desk.tally.pending =
        d.tally.pending := by
  intro o live gone ops
  have hconsent : o.consent.ConfiguredWith [] := rfl
  have hops : ∀ op ∈ ops, op.isOffer = false := by decide
  have hone : ((Session.service o).after ops).office.desk.tally.pending = 1 := by decide +kernel
  have hrequest : (Operation.handle gone .accept).isRequest = true := by decide +kernel
  have hclaim : isClaim ((Session.perform (.handle gone .accept)).run
      ((Session.service o).after ops)).1 = false := by decide +kernel
  have hall := counters_conserved o [] ops hconsent hops
  have hafter := hall.2.2.2.2.2.2 gone .accept hrequest (fun _ h => nomatch h) hclaim
  exact ⟨hconsent, hops, hall.2.2.2.1, hone, hrequest, hclaim, hafter⟩

end CaptureArbiter
