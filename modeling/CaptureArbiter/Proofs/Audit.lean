import CaptureArbiter.Proofs.Handling

/-!
# The books of a service

The counters of a service agree with what the sinks of its requests have received. Runs of callbacks
keep the books, whoever makes them, and so does the handling of a request: it opens an account that
is settled when it ends, unless the authority has the callback then.
-/

namespace CaptureArbiter

open Act

/-- Does an answer say that the authority has the callback? -/
def isClaim : Except Failure Reply → Bool
  | .ok (.phase .delegatedToConsent) => true
  | _ => false

theorem getElem?_concat_cases {α : Type} {xs : List α} {x a : α} {i : Nat}
    (h : (xs ++ [x])[i]? = some a) : xs[i]? = some a ∨ i = xs.length ∧ a = x := by
  by_cases hi : i < xs.length
  · rw [List.getElem?_append_left hi] at h
    exact .inl h
  · have hlt := (List.getElem?_eq_some_iff.mp h).1
    rw [List.length_append, List.length_singleton] at hlt
    have hlast : i = xs.length := by omega
    subst hlast
    rw [List.getElem?_concat_length] at h
    exact .inr ⟨rfl, (Option.some.inj h).symm⟩

namespace Tally

theorem pending_settled (t : Tally) (o : Outcome) : (t.settled o).pending = t.pending - 1 := by
  cases o <;> rfl

theorem total_settled (t : Tally) (o : Outcome) : (t.settled o).total = t.total := by
  cases o <;> rfl

theorem abandoned_settled (t : Tally) (o : Outcome) : (t.settled o).abandoned = t.abandoned := by
  cases o <;> rfl

end Tally

namespace Desk

/-- The books agree with the answers that were given to the requests so far. Each request has a
callback of its own, and its number is one more than the number of its callback. -/
structure Audited (answers : List (Except Failure Reply)) (d : Desk) : Prop where
  once : d.DeliversOnce
  numbered : ∀ {id c}, d.callbacks[id]? = some c → c.ticket.map (·.number) = some (id + 1)
  ticketed : ∀ x ∈ d.deliveries, x.callback < d.callbacks.length ∧ x.ticket = some (x.callback + 1)
  counted : ∀ o, d.tally.count o = d.deliveries.countP (·.outcome == o)
  pending : d.tally.pending + d.deliveries.length = d.callbacks.length
  total : d.tally.total = d.callbacks.length
  abandoned : d.tally.abandoned ≤ d.tally.count .failedDueToShutdown
  listed : answers.length = d.callbacks.length
  settled : ∀ {id a}, answers[id]? = some a → isClaim a = false → d.received id ≠ []

theorem tally_settle {c : Callback} {t : Ticket} (ht : c.ticket = some t) (d : Desk) (id : Nat)
    (devices : List Device) (o : Outcome) :
    (d.settle id c devices o).tally = d.tally.settled o := by
  rw [settle, ht]
  rfl

theorem abandoned_steady (n : Nat) :
    Desk.Steady (fun _ => True) fun d => d.tally.abandoned = n where
  named _ := trivial
  noted _ h := h
  parked _ h := h
  wasted _ _ _ _ h := h
  settled {d id c} devices o _ _ h := by
    cases ht : c.ticket with
    | none =>
      rw [settle, ht]
      exact h
    | some t =>
      rw [tally_settle ht, Tally.abandoned_settled]
      exact h

namespace Audited

variable {answers : List (Except Failure Reply)} {d : Desk}

theorem markUsed (h : d.Audited answers) {id : Nat} {c : Callback}
    (hc : d.callbacks[id]? = some c) (hu : c.used = false) : (d.markUsed id).Audited answers where
  once := h.once.markUsed hc hu
  numbered {j c'} hj := by
    rw [getElem?_markUsed, Option.map_eq_some_iff] at hj
    obtain ⟨c₀, hc₀, rfl⟩ := hj
    have hnum := h.numbered hc₀
    split
    · exact hnum
    · exact hnum
  ticketed x hx := by
    rw [length_markUsed]
    exact h.ticketed x hx
  counted := h.counted
  pending := by
    rw [length_markUsed]
    exact h.pending
  total := by
    rw [length_markUsed]
    exact h.total
  abandoned := h.abandoned
  listed := by
    rw [length_markUsed]
    exact h.listed
  settled := h.settled

theorem settle (h : d.Audited answers) {id : Nat} {c : Callback} (hc : d.callbacks[id]? = some c)
    (hu : c.used = false) (devices : List Device) (o : Outcome) :
    (d.settle id c devices o).Audited answers := by
  have hm := h.markUsed hc hu
  have hnum := h.numbered hc
  obtain ⟨t, ht, _⟩ := Option.map_eq_some_iff.mp hnum
  have htally := tally_settle ht d id devices o
  have hcallbacks := callbacks_settle d id c devices o
  have hdeliveries := deliveries_settle d id c devices o
  rw [hnum] at hdeliveries
  have hlength := length_markUsed d id
  constructor
  case once => exact h.once.settle hc hu devices o
  case numbered =>
    rw [hcallbacks]
    exact hm.numbered
  case ticketed =>
    intro x hx
    rw [hdeliveries, List.mem_append, List.mem_singleton] at hx
    rw [hcallbacks, hlength]
    rcases hx with hx | rfl
    · exact h.ticketed x hx
    · exact ⟨lt_of_callback hc, rfl⟩
  case counted =>
    intro o'
    rw [htally, hdeliveries, Tally.count_settled, h.counted o', List.countP_append]
    simp only [List.countP_cons, List.countP_nil, Nat.zero_add, beq_iff_eq]
  case pending =>
    have hp := h.pending
    rw [htally, hdeliveries, hcallbacks, hlength, Tally.pending_settled, List.length_append,
      List.length_singleton]
    omega
  case total =>
    rw [htally, hcallbacks, hlength, Tally.total_settled]
    exact h.total
  case abandoned =>
    have ha := h.abandoned
    rw [htally, Tally.abandoned_settled, Tally.count_settled]
    omega
  case listed =>
    rw [hcallbacks, hlength]
    exact h.listed
  case settled =>
    intro j a ha hclaim
    by_cases hj : id = j
    · subst hj
      rw [received_settle_self]
      exact List.append_ne_nil_of_right_ne_nil _ (List.cons_ne_nil _ _)
    · rw [received_settle_of_ne d c devices o hj]
      exact h.settled ha hclaim

theorem steady (answers : List (Except Failure Reply)) :
    Desk.Steady (fun _ => True) (Audited answers) where
  named _ := trivial
  noted _ h := { h with }
  parked _ h := { h with }
  wasted hc hu _ _ h := h.markUsed hc hu
  settled devices o hc hu h := h.settle hc hu devices o

theorem replaceLast {claim answer : Except Failure Reply} (h : d.Audited (answers ++ [claim]))
    (hs : isClaim answer = false → d.received answers.length ≠ []) :
    d.Audited (answers ++ [answer]) where
  once := h.once
  numbered := h.numbered
  ticketed := h.ticketed
  counted := h.counted
  pending := h.pending
  total := h.total
  abandoned := h.abandoned
  listed := by
    have hl := h.listed
    rw [List.length_append] at hl ⊢
    exact hl
  settled {id a} ha hclaim := by
    rcases getElem?_concat_cases ha with hold | ⟨rfl, rfl⟩
    · have hlt := (List.getElem?_eq_some_iff.mp hold).1
      exact h.settled ((List.getElem?_append_left hlt).trans hold) hclaim
    · exact hs hclaim

theorem answered (h : d.Audited answers) {answer : Except Failure Phase}
    (hs : answer = .ok .abandonedNoFrame →
      d.tally.abandoned + 1 ≤ d.tally.count .failedDueToShutdown) :
    { d with tally := d.tally.answered answer }.Audited answers := by
  unfold Tally.answered
  split
  · have hcount (o : Outcome) :
        ({ d.tally with abandoned := d.tally.abandoned + 1 } : Tally).count o =
          d.tally.count o := by
      cases o <;> rfl
    exact { h with counted := fun o => (hcount o).trans (h.counted o), abandoned := hs rfl }
  · exact h

end Audited

end Desk

namespace Office

variable {o : Office} {answers : List (Except Failure Reply)}

theorem audited_opened (h : o.desk.Audited answers) (r : Request) (sink : Sink) :
    (o.opened r sink).desk.Audited (answers ++ [.ok (.phase .delegatedToConsent)]) := by
  have hlength : (o.opened r sink).desk.callbacks.length = o.desk.callbacks.length + 1 :=
    List.length_append
  constructor
  case once => exact Desk.DeliversOnce.stable.added rfl (Desk.DeliversOnce.stable.tallied _ h.once)
  case numbered =>
    intro id c hc
    rcases getElem?_concat_cases hc with hold | ⟨rfl, rfl⟩
    · exact h.numbered hold
    · exact congrArg some (congrArg (· + 1) h.total)
  case ticketed =>
    intro x hx
    obtain ⟨hlt, hticket⟩ := h.ticketed x hx
    exact ⟨by omega, hticket⟩
  case counted =>
    intro outcome
    have hsame : o.desk.tally.opened.count outcome = o.desk.tally.count outcome := by
      cases outcome <;> rfl
    exact hsame.trans (h.counted outcome)
  case pending =>
    have hp := h.pending
    have hopened : (o.opened r sink).desk.tally.pending = o.desk.tally.pending + 1 := rfl
    have hsame : (o.opened r sink).desk.deliveries = o.desk.deliveries := rfl
    rw [hlength, hopened, hsame]
    omega
  case total =>
    rw [hlength]
    exact congrArg (· + 1) h.total
  case abandoned => exact h.abandoned
  case listed =>
    rw [hlength, List.length_append, h.listed]
    rfl
  case settled =>
    intro id a ha hclaim
    rcases getElem?_concat_cases ha with hold | ⟨_, rfl⟩
    · exact h.settled hold hclaim
    · cases hclaim

theorem received_hearing {origins : List String} (r : Request) (sink : Sink)
    (hc : o.consent.ConfiguredWith origins) (hu : (o.hearing r sink).Unattended) :
    (Hearing.scopedRun.run (o.hearing r sink)).2.office.desk.received o.desk.callbacks.length ≠
      [] := by
  have hends := (fresh_hearing o r sink).endsWith_verdict rfl hc hu
  have hmem := hends.takes.first.subset (List.mem_append_right _ (List.mem_singleton.mpr rfl))
  exact List.ne_nil_of_mem (List.mem_filter.mpr ⟨hmem, beq_self_eq_true _⟩)

/-- A hearing of an abandoned request has counted a failure due to shutdown. -/
theorem shutdown_hearing {origins : List String} (r : Request) (sink : Sink)
    (hc : o.consent.ConfiguredWith origins)
    (ha : (Hearing.scopedRun.run (o.hearing r sink)).1 = .ok .abandonedNoFrame) :
    o.desk.deliveries.countP (·.outcome == .failedDueToShutdown) + 1 ≤
      (Hearing.scopedRun.run (o.hearing r sink)).2.office.desk.deliveries.countP
        (·.outcome == .failedDueToShutdown) := by
  by_cases hu : (o.hearing r sink).Unattended
  · have hends := (fresh_hearing o r sink).endsWith_verdict rfl hc hu
    have houtcome := Verdict.outcome_of_abandoned (hends.answer _ ha)
    have hcount := hends.takes.first.sublist.countP_le (p := (·.outcome == .failedDueToShutdown))
    simp only [List.countP_append, List.countP_cons, List.countP_nil, Callback.delivery, houtcome,
      beq_self_eq_true, if_true] at hcount
    exact hcount
  · rw [(fresh_hearing o r sink).claimed rfl hu] at ha
    cases ha

theorem abandoned_hearing (o : Office) (r : Request) (sink : Sink) :
    (Hearing.scopedRun.run (o.hearing r sink)).2.office.desk.tally.abandoned =
      o.desk.tally.abandoned :=
  ((Desk.abandoned_steady o.desk.tally.abandoned).holds.keeps_scopedRun (o.hearing r sink)
    ⟨Consent.says_true _, rfl⟩).2

theorem audited_handle {origins : List String} (hc : o.consent.ConfiguredWith origins)
    (h : o.desk.Audited answers) (r : Request) (sink : Sink) :
    ((handle r sink).run o).2.desk.Audited
      (answers ++ [((handle r sink).run o).1.map Reply.phase]) := by
  have hheard := ((Desk.Audited.steady _).holds.keeps_scopedRun (o.hearing r sink)
    ⟨Consent.says_true _, audited_opened h r sink⟩).2
  have habandoned := abandoned_hearing o r sink
  have hreceived := received_hearing r sink hc
  have hshutdown := shutdown_hearing r sink hc
  have hclaimed := (fresh_hearing o r sink).claimed rfl
  rw [run_handle]
  simp only
  generalize Hearing.scopedRun.run (o.hearing r sink) = y at *
  -- the account was opened as a claim; now the answer that was given stands in its place
  refine Desk.Audited.answered (hheard.replaceLast fun hclaim => ?_) fun ha => ?_
  · by_cases hu : (o.hearing r sink).Unattended
    · rw [h.listed]
      exact hreceived hu
    · rw [hclaimed hu] at hclaim
      cases hclaim
  · have hold := h.abandoned
    have hnew := hshutdown ha
    rw [h.counted] at hold
    rw [habandoned, hheard.counted]
    omega

end Office

end CaptureArbiter
