import CaptureArbiter.Proofs.Conservation
import Mathlib.Data.List.Perm.Basic

/-!
# Deferred requests

A handler can park callbacks and leave their runs for later. Late runs of different callbacks do not
interfere: each uses up its own callback, delivers to its own sink if its result names an outcome,
and settles its own account. So what they leave behind, taken together, does not depend on their
order, nor on what becomes of the surroundings meanwhile.
-/

namespace CaptureArbiter

open Act

/-- A run of a callback that was parked. -/
structure LateRun where
  callback : Nat
  devices : List Device
  result : Given

/-- Does the operation run a parked callback, or leave all callbacks alone? -/
def Operation.isLate : Operation → Bool
  | .runParked .. => true
  | op => op.isQuiet

theorem Operation.not_isOffer_of_isLate {op : Operation} (h : op.isLate = true) :
    op.isOffer = false := by
  cases op with
  | offer _ _ _ => cases h
  | _ => rfl

/-- The counters after a delivery. -/
def Tally.counting (t : Tally) (x : Delivery) : Tally :=
  match x.ticket with
  | none => t
  | some _ => t.settled x.outcome

theorem Tally.settled_right_comm (t : Tally) (o o' : Outcome) :
    (t.settled o).settled o' = (t.settled o').settled o := by
  cases o <;> cases o' <;> rfl

theorem Tally.counting_right_comm (t : Tally) (x y : Delivery) :
    (t.counting x).counting y = (t.counting y).counting x := by
  unfold counting
  cases x.ticket with
  | none => rfl
  | some _ =>
    cases y.ticket with
    | none => rfl
    | some _ => exact t.settled_right_comm x.outcome y.outcome

theorem Tally.foldl_counting_of_perm {xs ys : List Delivery} (h : xs.Perm ys) (t : Tally) :
    xs.foldl counting t = ys.foldl counting t :=
  h.foldl_eq' (fun x _ y _ t => t.counting_right_comm x y) t

namespace Desk

/-- The run that an operation is, if the desk knows the callback. -/
def lateRun? (d : Desk) : Operation → Option LateRun
  | .runParked index devices result =>
    ((d.parkedAt? index).filter (· < d.callbacks.length)).map fun id => ⟨id, devices, result⟩
  | _ => none

def lateRuns (d : Desk) (ops : List Operation) : List LateRun := ops.filterMap d.lateRun?

/-- What the sink receives by a run: nothing if the callback is used or the result names no
outcome. -/
def delivery? (d : Desk) (run : LateRun) : Option Delivery := do
  let c ← d.callbacks[run.callback]?
  if c.used then none
  else
    let o ← run.result.toOutcome.toOption
    return c.delivery run.callback run.devices o

/-- No sink runs another callback that is unused. -/
def Separate (d : Desk) : Prop :=
  ∀ {id other : Nat} {c c' : Callback}, d.callbacks[id]? = some c → c.sink = .rerun other →
    d.callbacks[other]? = some c' → c'.used = false → other = id

variable {d e f : Desk}

/-- Between two states of the desk these runs have been made, and nothing else but notes. -/
structure Advances (runs : List LateRun) (d e : Desk) : Prop where
  parked : e.parked = d.parked
  callbacks : ∀ id, e.callbacks[id]? = (d.callbacks[id]?).map fun c =>
    if id ∈ runs.map (·.callback) then { c with used := true } else c
  deliveries : e.deliveries = d.deliveries ++ runs.filterMap d.delivery?
  tally : e.tally = (runs.filterMap d.delivery?).foldl Tally.counting d.tally

theorem advances_self (d : Desk) : Advances [] d d where
  parked := rfl
  callbacks id := by simp only [List.map_nil, List.not_mem_nil, if_false, Option.map_id']
  deliveries := (List.append_nil _).symm
  tally := rfl

theorem Advances.noted {runs : List LateRun} (h : Advances runs d e) (notes : List Note) :
    Advances runs d (e.noted notes) :=
  ⟨h.parked, h.callbacks, h.deliveries, h.tally⟩

section

variable {run : LateRun} {c : Callback} {o : Outcome}

theorem delivery?_of_used (hc : d.callbacks[run.callback]? = some c) (hu : c.used = true) :
    d.delivery? run = none := by
  simp only [delivery?, hc, hu, Option.bind_eq_bind, Option.bind_some, if_true]

theorem delivery?_of_error (hc : d.callbacks[run.callback]? = some c) {failure : Failure}
    (hr : run.result.toOutcome = .error failure) :
    d.delivery? run = none := by
  simp only [delivery?, hc, hr, Option.bind_eq_bind, Option.bind_some]
  split <;> rfl

theorem delivery?_of_ok (hc : d.callbacks[run.callback]? = some c) (hu : c.used = false)
    (hr : run.result.toOutcome = .ok o) :
    d.delivery? run = some (c.delivery run.callback run.devices o) := by
  simp only [delivery?, hc, hu, hr, Option.bind_eq_bind, Option.bind_some, Bool.false_eq_true,
    if_false]
  rfl

theorem tally_settle_counting (d : Desk) (id : Nat) (c : Callback) (devices : List Device)
    (o : Outcome) :
    (d.settle id c devices o).tally = d.tally.counting (c.delivery id devices o) := by
  unfold settle delivered Tally.counting Callback.delivery
  cases c.ticket <;> rfl

theorem callbacks_markUsed (d : Desk) (run : LateRun) (id : Nat) :
    (d.markUsed run.callback).callbacks[id]? = (d.callbacks[id]?).map fun c =>
      if id ∈ [run].map (·.callback) then { c with used := true } else c := by
  rw [getElem?_markUsed]
  simp only [List.map_cons, List.map_nil, List.mem_singleton, eq_comm]

theorem advances_of_used (hc : d.callbacks[run.callback]? = some c) (hu : c.used = true) :
    Advances [run] d d where
  parked := rfl
  callbacks id := by
    rw [← callbacks_markUsed, getElem?_markUsed]
    by_cases hid : run.callback = id
    · rw [← hid, hc, Option.map_some, if_pos rfl, ← hu]
    · simp only [if_neg hid, Option.map_id']
  deliveries := by
    rw [List.filterMap_cons_none (delivery?_of_used hc hu), List.filterMap_nil, List.append_nil]
  tally := by
    rw [List.filterMap_cons_none (delivery?_of_used hc hu)]
    rfl

theorem advances_markUsed (hc : d.callbacks[run.callback]? = some c) {failure : Failure}
    (hr : run.result.toOutcome = .error failure) :
    Advances [run] d (d.markUsed run.callback) where
  parked := rfl
  callbacks := callbacks_markUsed d run
  deliveries := by
    rw [List.filterMap_cons_none (delivery?_of_error hc hr), List.filterMap_nil, List.append_nil]
    rfl
  tally := by
    rw [List.filterMap_cons_none (delivery?_of_error hc hr)]
    rfl

theorem advances_settle (hc : d.callbacks[run.callback]? = some c) (hu : c.used = false)
    (hr : run.result.toOutcome = .ok o) :
    Advances [run] d (d.settle run.callback c run.devices o) where
  parked := by
    unfold settle delivered
    cases c.ticket <;> rfl
  callbacks id := by
    rw [callbacks_settle]
    exact callbacks_markUsed d run id
  deliveries := by
    rw [List.filterMap_cons_some (delivery?_of_ok hc hu hr), deliveries_settle]
    rfl
  tally := by
    rw [List.filterMap_cons_some (delivery?_of_ok hc hu hr), tally_settle_counting]
    rfl

theorem Separate.react (hd : d.Separate) (hc : d.callbacks[run.callback]? = some c) (o : Outcome) :
    ((react (fun other => runCallback other run.devices (.ofOutcome o)) c.sink).run
      (d.settle run.callback c run.devices o)).2 = d.settle run.callback c run.devices o := by
  cases hk : c.sink with
  | accept | fail e => rfl
  | rerun other =>
    simp only [Desk.react]
    rw [run_runCallback]
    -- the callback that the sink runs is unknown, or was used before, or is the one just used up
    cases hother : (d.settle run.callback c run.devices o).callbacks[other]? with
    | none => rfl
    | some c' =>
      have hused : c'.used = true := by
        rw [callbacks_settle, getElem?_markUsed, Option.map_eq_some_iff] at hother
        obtain ⟨c₀, hc₀, rfl⟩ := hother
        split
        · rfl
        · rename_i hne
          by_contra hunused
          exact hne (hd hc hk hc₀ (Bool.not_eq_true _ ▸ hunused)).symm
      simp only [hused, if_true]

theorem Separate.advances_run (hd : d.Separate) (run : LateRun)
    (hc : d.callbacks[run.callback]? = some c) :
    Advances [run] d ((runCallback run.callback run.devices run.result).run d).2 := by
  rw [run_runCallback, hc]
  cases hu : c.used with
  | true =>
    simp only [hu, if_true]
    exact advances_of_used hc hu
  | false =>
    simp only [hu, Bool.false_eq_true, if_false]
    cases hr : run.result.toOutcome with
    | error failure => exact advances_markUsed hc hr
    | ok o =>
      simp only
      rw [hd.react hc o]
      exact advances_settle hc hu hr

end

theorem Separate.advances_runParked (hd : d.Separate) (index : Int) (devices : List Device)
    (result : Given) :
    Advances (d.lateRun? (.runParked index devices result)).toList d
      ((runParked index devices result).run d).2 := by
  rw [runParked, run_bind_ok (run_get _), lateRun?]
  cases d.parkedAt? index with
  | none => exact advances_self d
  | some id =>
    by_cases hk : id < d.callbacks.length
    · simp only [Option.filter_some, hk, decide_true, if_true]
      exact hd.advances_run ⟨id, devices, result⟩ (List.getElem?_eq_getElem hk)
    · have hnone : d.callbacks[id]? = none := List.getElem?_eq_none (Nat.le_of_not_lt hk)
      simp only [Option.filter_some, hk, decide_false, Bool.false_eq_true, if_false]
      rw [run_runCallback, hnone]
      exact advances_self d

theorem lateRun?_of_parked {index : Int} {id : Nat} (hparked : d.parkedAt? index = some id)
    (hk : id < d.callbacks.length) (devices : List Device) (result : Given) :
    d.lateRun? (.runParked index devices result) = some ⟨id, devices, result⟩ := by
  simp only [lateRun?, hparked, Option.filter_some, hk, decide_true, if_true, Option.map_some]

theorem exists_callback_of_mem_lateRuns {ops : List Operation} {run : LateRun}
    (h : run ∈ d.lateRuns ops) : ∃ c, d.callbacks[run.callback]? = some c := by
  obtain ⟨op, _, hop⟩ := List.mem_filterMap.mp h
  cases op with
  | runParked index devices result =>
    obtain ⟨id, hid, rfl⟩ := Option.map_eq_some_iff.mp hop
    have hk := (Option.filter_eq_some_iff.mp hid).2
    exact ⟨_, List.getElem?_eq_getElem (of_decide_eq_true hk)⟩
  | _ => cases hop

namespace Advances

variable {xs ys : List LateRun}

theorem length_callbacks (h : Advances xs d e) : e.callbacks.length = d.callbacks.length := by
  have hnone (id : Nat) : e.callbacks.length ≤ id ↔ d.callbacks.length ≤ id := by
    rw [← List.getElem?_eq_none_iff, h.callbacks id, Option.map_eq_none_iff,
      List.getElem?_eq_none_iff]
  have hle := (hnone d.callbacks.length).mpr (Nat.le_refl _)
  have hge := (hnone e.callbacks.length).mp (Nat.le_refl _)
  exact Nat.le_antisymm hle hge

theorem lateRun?_eq (h : Advances xs d e) (op : Operation) : e.lateRun? op = d.lateRun? op := by
  cases op with
  | runParked index devices result =>
    simp only [lateRun?, parkedAt?, h.parked, h.length_callbacks]
  | _ => rfl

theorem lateRuns_eq (h : Advances xs d e) (ops : List Operation) :
    e.lateRuns ops = d.lateRuns ops :=
  List.filterMap_congr fun op _ => h.lateRun?_eq op

theorem delivery?_eq (h : Advances xs d e) {run : LateRun}
    (hrun : run.callback ∉ xs.map (·.callback)) : e.delivery? run = d.delivery? run := by
  have hsame : e.callbacks[run.callback]? = d.callbacks[run.callback]? := by
    rw [h.callbacks]
    simp only [if_neg hrun, Option.map_id']
  simp only [delivery?, hsame]

theorem used (h : Advances xs d e) {run : LateRun} (hrun : run ∈ xs) {c : Callback}
    (hc : d.callbacks[run.callback]? = some c) :
    e.callbacks[run.callback]? = some { c with used := true } := by
  rw [h.callbacks, hc, Option.map_some, if_pos (List.mem_map_of_mem hrun)]

theorem separate (h : Advances xs d e) (hd : d.Separate) : e.Separate := by
  intro id other c c' hc hk hc' hu
  rw [h.callbacks, Option.map_eq_some_iff] at hc hc'
  obtain ⟨c₀, hc₀, rfl⟩ := hc
  obtain ⟨c₀', hc₀', rfl⟩ := hc'
  refine hd hc₀ ?_ hc₀' ?_
  · split at hk
    · exact hk
    · exact hk
  · split at hu
    · cases hu
    · exact hu

theorem trans (h : Advances xs d e) (h' : Advances ys e f)
    (hnodup : ((xs ++ ys).map (·.callback)).Nodup) : Advances (xs ++ ys) d f := by
  rw [List.map_append, List.nodup_append] at hnodup
  obtain ⟨_, _, hdisjoint⟩ := hnodup
  -- the first runs have left the callbacks of the others as they were
  have hys : ys.filterMap e.delivery? = ys.filterMap d.delivery? := by
    refine List.filterMap_congr fun run hrun => h.delivery?_eq fun hxs => ?_
    exact hdisjoint _ hxs _ (List.mem_map_of_mem hrun) rfl
  constructor
  case parked => rw [h'.parked, h.parked]
  case callbacks =>
    intro id
    rw [h'.callbacks, h.callbacks, Option.map_map]
    congr 1
    funext c
    simp only [Function.comp, List.map_append, List.mem_append]
    by_cases hx : id ∈ xs.map (·.callback) <;> by_cases hy : id ∈ ys.map (·.callback) <;>
      simp [hx, hy]
  case deliveries =>
    rw [h'.deliveries, h.deliveries, hys, List.filterMap_append, List.append_assoc]
  case tally => rw [h'.tally, h.tally, hys, List.filterMap_append, List.foldl_append]

end Advances

end Desk

namespace Session

variable {s : Session} {op : Operation}

theorem run_runParked_of_used {id : Nat} {c : Callback} {index : Int}
    (hparked : s.office.desk.parkedAt? index = some id)
    (hc : s.office.desk.callbacks[id]? = some c) (hu : c.used = true) (devices : List Device)
    (result : Given) :
    (perform (.runParked index devices result)).run s = (.error (.callbackUsed c.label), s) := by
  rw [run_runParked, Desk.runParked, run_bind_ok (run_get _), hparked]
  simp only [Desk.run_of_used hc hu]
  rfl

theorem advances_perform (hs : s.office.desk.Separate) (hop : op.isLate = true) :
    Desk.Advances (s.office.desk.lateRun? op).toList s.office.desk
      ((perform op).run s).2.office.desk := by
  cases hq : op.isQuiet with
  | true =>
    have hnone : s.office.desk.lateRun? op = none := by
      cases op with
      | runParked _ _ _ => cases hq
      | _ => rfl
    obtain ⟨notes, hnotes⟩ := logs_quiet hq s
    rw [hnone, hnotes]
    exact (Desk.advances_self _).noted notes
  | false =>
    cases op with
    | runParked index devices result =>
      rw [run_runParked]
      exact hs.advances_runParked index devices result
    | _ =>
      simp only [Operation.isLate, hq] at hop
      cases hop

/-- Late runs of different callbacks come to the runs of each of them on the desk as it was. -/
theorem advances_after {ops : List Operation} (hs : s.office.desk.Separate)
    (hops : ∀ op ∈ ops, op.isLate = true)
    (hnodup : ((s.office.desk.lateRuns ops).map (·.callback)).Nodup) :
    Desk.Advances (s.office.desk.lateRuns ops) s.office.desk (s.after ops).office.desk := by
  induction ops generalizing s with
  | nil => exact Desk.advances_self _
  | cons op ops ih =>
    have hstep := advances_perform hs (hops op (List.mem_cons_self ..))
    have hsplit : s.office.desk.lateRuns (op :: ops) =
        (s.office.desk.lateRun? op).toList ++ s.office.desk.lateRuns ops := by
      rw [Desk.lateRuns, List.filterMap_cons]
      cases s.office.desk.lateRun? op <;> rfl
    rw [hsplit] at hnodup ⊢
    have hrest : (((s.office.desk.lateRuns ops)).map (·.callback)).Nodup := by
      rw [List.map_append] at hnodup
      exact (List.nodup_append.mp hnodup).2.1
    have hlater := ih (s := ((perform op).run s).2) (hstep.separate hs)
      (fun x hx => hops x (List.mem_cons_of_mem _ hx)) (by rw [hstep.lateRuns_eq]; exact hrest)
    rw [hstep.lateRuns_eq] at hlater
    exact hstep.trans hlater hnodup

end Session

/-- No sink holds two deliveries, so their order makes no difference to any sink. -/
theorem Desk.DeliversOnce.received_eq_of_perm {d e : Desk} (h : d.DeliversOnce)
    (hperm : d.deliveries.Perm e.deliveries) (id : Nat) : d.received id = e.received id := by
  have hsame : (d.received id).Perm (e.received id) := hperm.filter _
  have hle := h.length_received_le id
  match hd : d.received id with
  | [] =>
    rw [hd] at hsame
    exact hsame.nil_eq
  | [x] =>
    rw [hd] at hsame
    exact (List.singleton_perm.mp hsame).symm ▸ rfl
  | _ :: _ :: _ =>
    rw [hd, List.length_cons, List.length_cons] at hle
    omega

/-- No request has a sink that runs a callback. -/
def Operation.hasPlainSink : Operation → Bool
  | .handle _ (.rerun _) => false
  | _ => true

def Desk.IsPlain (d : Desk) : Prop := ∀ c ∈ d.callbacks, ∀ other, c.sink ≠ .rerun other

namespace Desk.IsPlain

variable {d : Desk}

theorem separate (h : d.IsPlain) : d.Separate :=
  fun hc hk _ _ => absurd hk (h _ (List.mem_of_getElem? hc) _)

theorem markUsed (h : d.IsPlain) (id : Nat) : (d.markUsed id).IsPlain := by
  intro c hc other
  obtain ⟨j, hj⟩ := List.mem_iff_getElem?.mp hc
  rw [getElem?_markUsed, Option.map_eq_some_iff] at hj
  obtain ⟨c₀, hc₀, rfl⟩ := hj
  have hplain := h c₀ (List.mem_of_getElem? hc₀) other
  split
  · exact hplain
  · exact hplain

theorem steady : Desk.Steady (fun _ => True) Desk.IsPlain where
  named _ := trivial
  noted _ h := h
  parked _ h := h
  wasted _ _ _ _ h := h.markUsed _
  settled devices o _ _ h := by
    unfold Desk.IsPlain
    rw [callbacks_settle]
    exact h.markUsed _

end Desk.IsPlain

namespace Session

theorem isPlain_perform {op : Operation} (hop : op.isOffer = false)
    (hsink : op.hasPlainSink = true) :
    Keeps (fun s : Session => s.office.desk.IsPlain) (perform op) := by
  intro s h
  cases hmakes : op.makesCallback with
  | false =>
    exact (Desk.IsPlain.steady.holds.keeps_operation op.says_true hmakes s
      ⟨Consent.says_true _, h⟩).2
  | true =>
    cases op with
    | offer request label sink => cases hop
    | handle request sink =>
      cases hr : Request.ofValue request with
      | error e =>
        rw [run_unreadable hr]
        exact h
      | ok r =>
        have hopened : (s.office.opened r sink).desk.IsPlain := by
          intro c hc other
          rcases List.mem_append.mp hc with hold | hnew
          · exact h c hold other
          · rw [List.mem_singleton.mp hnew]
            intro (hk : sink = .rerun other)
            rw [hk] at hsink
            cases hsink
        have hheard := Desk.IsPlain.steady.holds.keeps_scopedRun (s.office.hearing r sink)
          ⟨Consent.says_true _, hopened⟩
        rw [run_request hr, Office.run_handle]
        exact hheard.2
    | _ => cases hmakes

theorem isPlain_after {ops : List Operation} {s : Session}
    (hops : ∀ op ∈ ops, op.isOffer = false ∧ op.hasPlainSink = true)
    (h : s.office.desk.IsPlain) : (s.after ops).office.desk.IsPlain :=
  keeps_after (fun op hop => isPlain_perform (hops op hop).1 (hops op hop).2) h

end Session

/-- A service hears requests and its handler parks callbacks. They are run later, each once, with
devices and results of any kind, in one order or in another, while the surroundings change in one
way or in another. Provided that no sink runs an unused callback of another request, the counters
and what each sink has received are the same in the end: each run has made its own delivery, if its
result names an outcome, no sink has received what another request was granted, and whoever runs one
of the callbacks again fails and changes nothing. -/
theorem late_runs_commute (o : Office) (script : Option (List Play)) (ops : List Operation)
    (hconsent : o.consent = .handler script) (hops : ∀ op ∈ ops, op.isOffer = false) :
    let s := (Session.service o).after ops
    let d := s.office.desk
    d.Separate → ∀ xs ys, (∀ op ∈ xs, op.isLate = true) → (∀ op ∈ ys, op.isLate = true) →
      ((d.lateRuns xs).map (·.callback)).Nodup → (d.lateRuns xs).Perm (d.lateRuns ys) →
        let first := s.after xs
        let second := s.after ys
        first.office.desk.tally = second.office.desk.tally ∧
          (∀ id, first.office.desk.received id = second.office.desk.received id) ∧
          first.office.desk.deliveries = d.deliveries ++ (d.lateRuns xs).filterMap d.delivery? ∧
          (∀ id, ∀ x ∈ first.office.desk.received id, x.ticket = some (id + 1)) ∧
          ∀ run ∈ d.lateRuns xs, ∀ index devices result,
            d.parkedAt? index = some run.callback →
              (Session.perform (.runParked index devices result)).run first =
                (.error (.callbackUsed (d.labelOf run.callback)), first) := by
  intro s d hseparate xs ys hxs hys hnodup hperm first second
  have hfirst : Desk.Advances (d.lateRuns xs) d first.office.desk :=
    Session.advances_after hseparate hxs hnodup
  have hsecond : Desk.Advances (d.lateRuns ys) d second.office.desk :=
    Session.advances_after hseparate hys ((hperm.map _).nodup hnodup)
  have honce : first.office.desk.DeliversOnce :=
    Desk.DeliversOnce.stable.after
      (Desk.DeliversOnce.stable.after (Session.deliversOnce_service o) ops) xs
  have hconfigured : o.consent.ConfiguredWith [] := by
    rw [hconsent]
    rfl
  have haudit : first.office.desk.Audited _ :=
    Session.audited_after (fun op hop => Operation.not_isOffer_of_isLate (hxs op hop))
      (Session.configured_after hconfigured ops).consent
      (Session.audited_after hops hconfigured (Session.audited_service o))
  have hdelivered := hperm.filterMap d.delivery?
  -- both orders come to the same runs on the desk that the history has left
  refine ⟨?_, ?_, hfirst.deliveries, ?_, ?_⟩
  · rw [hfirst.tally, hsecond.tally]
    exact Tally.foldl_counting_of_perm hdelivered d.tally
  · refine honce.received_eq_of_perm ?_
    rw [hfirst.deliveries, hsecond.deliveries]
    exact hdelivered.append_left d.deliveries
  · intro id x hx
    obtain ⟨hmem, hid⟩ := List.mem_filter.mp hx
    rw [(haudit.ticketed x hmem).2, eq_of_beq hid]
  · intro run hrun index devices result hindex
    obtain ⟨c, hc⟩ := Desk.exists_callback_of_mem_lateRuns hrun
    have hlabel : d.labelOf run.callback = c.label := by
      rw [Desk.labelOf, hc]
      rfl
    have hparked : first.office.desk.parkedAt? index = some run.callback := by
      rw [Desk.parkedAt?, hfirst.parked]
      exact hindex
    rw [hlabel]
    exact Session.run_runParked_of_used hparked (hfirst.used hrun hc) rfl devices result

/-- Three requests are parked; the sink of the second fails, and the third is run with what is no
outcome. Their runs are done in two orders, while the handler is taken away or a device comes. -/
theorem late_runs_commute_parked :
    let o : Office :=
      { consent := .handler (some [.park]), frames := ⟨[{ processId := 7, frameId := 1 }]⟩ }
    let live : Value :=
      .map [(.text "render_process_id", .int 7), (.text "render_frame_id", .int 1)]
    let ops : List Operation :=
      [.handle live .accept, .handle live (.fail (.scripted "sink")), .handle live .accept]
    let camera : Device := ⟨.deviceVideo, "cam", ""⟩
    let a : Operation := .runParked 0 [camera] (.ofOutcome .ok)
    let b : Operation := .runParked 1 [] (.ofOutcome .permissionDenied)
    let c : Operation := .runParked (-1) [camera] (.plain (.int 99))
    let s := (Session.service o).after ops
    let d := s.office.desk
    let first := (s.after [a, .setHandler none, b, c]).office.desk
    let second := (s.after [b, c, .setVideo [camera], a]).office.desk
    o.consent = .handler (some [.park]) ∧ (∀ op ∈ ops, op.isOffer = false) ∧ d.Separate ∧
      first.tally = second.tally ∧ (∀ id, first.received id = second.received id) ∧
      first.tally.pending = 1 ∧
      first.deliveries = [⟨0, some 1, [camera], .ok⟩, ⟨1, some 2, [], .permissionDenied⟩] ∧
      second.deliveries = [⟨1, some 2, [], .permissionDenied⟩, ⟨0, some 1, [camera], .ok⟩] := by
  intro o live ops camera a b c s d first second
  have hconsent : o.consent = .handler (some [.park]) := rfl
  have hops : ∀ op ∈ ops, op.isOffer = false ∧ op.hasPlainSink = true := by decide
  have hplain : d.IsPlain := Session.isPlain_after hops fun _ h => nomatch h
  have hzero : d.parkedAt? 0 = some 0 := by decide +kernel
  have hone : d.parkedAt? 1 = some 1 := by decide +kernel
  have hlast : d.parkedAt? (-1) = some 2 := by decide +kernel
  have hlength : d.callbacks.length = 3 := by decide +kernel
  have hruns (index : Int) (id : Nat) (devices : List Device) (result : Given)
      (hindex : d.parkedAt? index = some id) (hid : id < 3) :
      d.lateRun? (.runParked index devices result) = some ⟨id, devices, result⟩ :=
    Desk.lateRun?_of_parked hindex (by rw [hlength]; exact hid) devices result
  have hxs : d.lateRuns [a, .setHandler none, b, c] =
      [⟨0, [camera], .ofOutcome .ok⟩, ⟨1, [], .ofOutcome .permissionDenied⟩,
        ⟨2, [camera], .plain (.int 99)⟩] := by
    rw [Desk.lateRuns, List.filterMap_cons_some (hruns 0 0 _ _ hzero (by decide)),
      List.filterMap_cons_none rfl, List.filterMap_cons_some (hruns 1 1 _ _ hone (by decide)),
      List.filterMap_cons_some (hruns (-1) 2 _ _ hlast (by decide)), List.filterMap_nil]
  have hys : d.lateRuns [b, c, .setVideo [camera], a] =
      [⟨1, [], .ofOutcome .permissionDenied⟩, ⟨2, [camera], .plain (.int 99)⟩,
        ⟨0, [camera], .ofOutcome .ok⟩] := by
    rw [Desk.lateRuns, List.filterMap_cons_some (hruns 1 1 _ _ hone (by decide)),
      List.filterMap_cons_some (hruns (-1) 2 _ _ hlast (by decide)), List.filterMap_cons_none rfl,
      List.filterMap_cons_some (hruns 0 0 _ _ hzero (by decide)), List.filterMap_nil]
  have hperm : (d.lateRuns [a, .setHandler none, b, c]).Perm
      (d.lateRuns [b, c, .setVideo [camera], a]) := by
    rw [hxs, hys]
    exact (List.perm_append_singleton _ [_, _]).symm
  have hnodup : ((d.lateRuns [a, .setHandler none, b, c]).map (·.callback)).Nodup := by
    rw [hxs]
    decide
  have hpending : first.tally.pending = 1 := by decide +kernel
  have hfirst : first.deliveries =
      [⟨0, some 1, [camera], .ok⟩, ⟨1, some 2, [], .permissionDenied⟩] := by decide +kernel
  have hsecond : second.deliveries =
      [⟨1, some 2, [], .permissionDenied⟩, ⟨0, some 1, [camera], .ok⟩] := by decide +kernel
  obtain ⟨htally, hreceived, _⟩ := late_runs_commute o _ ops hconsent
    (fun op hop => (hops op hop).1) hplain.separate [a, .setHandler none, b, c]
    [b, c, .setVideo [camera], a] (by decide) (by decide) hnodup hperm
  -- the names must be opened before the sessions, which would be run otherwise
  with_reducible
    exact ⟨hconsent, fun op hop => (hops op hop).1, hplain.separate, htally, hreceived, hpending,
      hfirst, hsecond⟩

end CaptureArbiter
