import CaptureArbiter.Proofs.AtMostOnce
import CaptureArbiter.Proofs.Readings
import CaptureArbiter.Proofs.Spent

/-!
# Owners of callbacks

A sink is called in the middle of a run and may run callbacks itself, but every run ends: a callback
is used up before its sink is called, so each run inside another one has fewer unused callbacks
left. The owner of a callback lets go of it before it runs it. So it lets go once, whatever the sink
does, and it refuses whatever it is asked to do with a callback that it has let go of.
-/

namespace CaptureArbiter

open Act

namespace Desk

/-- A run of a callback ends, after so many runs one inside the other: an unknown callback does
nothing, a used one is refused, and a result that names no outcome is refused after the callback was
used up. Otherwise the sink has received the delivery; it ends the run, or a callback that it runs
does. -/
inductive Ends : Nat → Nat → List Device → Given → Desk → Except Failure Unit → Desk → Prop
  | absent {id devices v d} (hc : d.callbacks[id]? = none) : Ends 0 id devices v d (.ok ()) d
  | used {id devices v d c} (hc : d.callbacks[id]? = some c) (hu : c.used = true) :
      Ends 0 id devices v d (.error (.callbackUsed c.label)) d
  | refused {id devices v d c e} (hc : d.callbacks[id]? = some c) (hu : c.used = false)
      (hv : v.toOutcome = .error e) :
      Ends 0 id devices v d (.error e) (d.markUsed id)
  | accepted {id devices v d c o} (hc : d.callbacks[id]? = some c) (hu : c.used = false)
      (hv : v.toOutcome = .ok o) (hs : c.sink = .accept) :
      Ends 0 id devices v d (.ok ()) (d.settle id c devices o)
  | failed {id devices v d c o e} (hc : d.callbacks[id]? = some c) (hu : c.used = false)
      (hv : v.toOutcome = .ok o) (hs : c.sink = .fail e) :
      Ends 0 id devices v d (.error e) (d.settle id c devices o)
  | reentered {n id devices v d c o other r d'} (hc : d.callbacks[id]? = some c)
      (hu : c.used = false) (hv : v.toOutcome = .ok o) (hs : c.sink = .rerun other)
      (inner : Ends n other devices (.ofOutcome o) (d.settle id c devices o) r d') :
      Ends (n + 1) id devices v d r d'

variable {d d' : Desk} {id n : Nat} {devices : List Device} {v : Given} {r : Except Failure Unit}

/-- Runs inside each other use up one callback each, the innermost one perhaps none. -/
theorem ends_run (id : Nat) (devices : List Device) (v : Given) (d : Desk) :
    ∃ n ≤ d.unused, Ends n id devices v d ((runCallback id devices v).run d).1
      ((runCallback id devices v).run d).2 := by
  -- on the unused callbacks: each delivery leaves one fewer
  induction hk : d.unused using Nat.strongRecOn generalizing d id v with
  | ind k ih =>
    rw [run_runCallback]
    cases hc : d.callbacks[id]? with
    | none => exact ⟨0, Nat.zero_le _, .absent hc⟩
    | some c =>
      cases hu : c.used with
      | true =>
        simp only [hu, if_true]
        exact ⟨0, Nat.zero_le _, .used hc hu⟩
      | false =>
        simp only [hu, Bool.false_eq_true, if_false]
        cases hv : v.toOutcome with
        | error e => exact ⟨0, Nat.zero_le _, .refused hc hu hv⟩
        | ok o =>
          have hless := unused_settle hc hu devices o
          cases hs : c.sink with
          | accept => exact ⟨0, Nat.zero_le _, .accepted hc hu hv hs⟩
          | fail e => exact ⟨0, Nat.zero_le _, .failed hc hu hv hs⟩
          | rerun other =>
            obtain ⟨n, hn, hinner⟩ :=
              ih (d.settle id c devices o).unused (by omega) other (.ofOutcome o) _ rfl
            exact ⟨n + 1, by omega, .reentered hc hu hv hs hinner⟩

theorem Ends.run_eq (h : Ends n id devices v d r d') :
    (runCallback id devices v).run d = (r, d') := by
  induction h with
  | absent hc => rw [run_runCallback, hc]
  | used hc hu => rw [run_runCallback, hc]; simp only [hu, if_true]
  | refused hc hu hv =>
    rw [run_runCallback, hc]
    simp only [hu, Bool.false_eq_true, if_false, hv]
  | accepted hc hu hv hs | failed hc hu hv hs =>
    rw [run_runCallback, hc]
    simp only [hu, Bool.false_eq_true, if_false, hv, hs]
    rfl
  | reentered hc hu hv hs _ ih =>
    rw [run_runCallback, hc]
    simp only [hu, Bool.false_eq_true, if_false, hv, hs]
    exact ih

theorem ends_reentrant {c : Callback} {o : Outcome} (hc : d.callbacks[id]? = some c)
    (hu : c.used = false) (hv : v.toOutcome = .ok o) (hs : c.sink = .rerun id) :
    Ends 1 id devices v d (.error (.callbackUsed c.label)) (d.settle id c devices o) := by
  have hused : (d.settle id c devices o).callbacks[id]? = some { c with used := true } := by
    rw [callbacks_settle, getElem?_markUsed, hc]
    simp only [Option.map_some, if_true]
  exact .reentered hc hu hv hs (.used (c := { c with used := true }) hused rfl)

theorem length_steady (k : Nat) :
    Desk.Steady (fun _ => True) fun d => d.callbacks.length = k where
  named _ := trivial
  noted _ h := h
  parked _ h := h
  wasted _ _ _ _ h := (length_markUsed _ _).trans h
  settled devices o _ _ h := by
    rw [callbacks_settle, length_markUsed]
    exact h

end Desk

structure Started where
  callback : Nat
  devices : List Device
  result : Given
  desk : Desk

def Started.run (x : Started) : Except Failure Unit × Desk :=
  (Desk.runCallback x.callback x.devices x.result).run x.desk

/-- The operations by which a holder lets go of its callback. -/
def CallbackOperation.releases : CallbackOperation → Bool
  | .fire .. | .handOff | .close | .drop => true
  | .run .. | .display | .peek => false

namespace CallbackSession

variable {s : CallbackSession} {id : Nat}

def owned (s : CallbackSession) : Option Nat := if s.isDropped then none else s.custody.held

def closing (s : CallbackSession) (id : Nat) : Started where
  callback := id
  devices := []
  result := .ofOutcome .failedDueToShutdown
  desk := s.custody.desk.noted [Custody.closingNote (s.custody.desk.labelOf id)]

def starts (s : CallbackSession) : CallbackOperation → Option Started
  | .run devices result => some ⟨s.callback, devices, result, s.custody.desk⟩
  | .fire devices result => s.owned.map fun id => ⟨id, devices, result, s.custody.desk⟩
  | .close | .drop => s.owned.map s.closing
  | .display | .peek | .handOff => none

/-- The session that an operation leaves behind, however it ends. -/
def left (s : CallbackSession) (op : CallbackOperation) : CallbackSession where
  callback := s.callback
  custody :=
    { held := if op.releases && !s.isDropped then none else s.custody.held
      desk := ((s.starts op).map fun x => x.run.2).getD s.custody.desk }
  isDropped := s.isDropped || op matches .drop

/-- The holder lets go of its callback before the callback is run, so a failure of the run makes no
difference to what is left. -/
theorem state_perform (op : CallbackOperation) (s : CallbackSession) :
    ((perform op).run s).2 = s.left op := by
  have hdrop : ∀ t : CallbackSession, ((perform .drop).run t).2 =
    { ((onHolder "close" Custody.close).run t).2 with isDropped := true } := fun _ => rfl
  obtain ⟨callback, ⟨held, desk⟩, isDropped⟩ := s
  cases isDropped with
  | true =>
    cases op with
    | run devices result => exact run_run ..
    | fire | display | peek | handOff | close | drop => rfl
  | false =>
    cases op with
    | run devices result => exact run_run ..
    | display => rfl
    | peek | handOff => cases held <;> rfl
    | fire devices result =>
      rw [perform, run_bind_pure, run_onHolder _ _ rfl, Custody.run_fire]
      cases held <;> rfl
    | close =>
      rw [run_close rfl, Custody.run_close]
      cases held <;> rfl
    | drop =>
      rw [hdrop, run_onHolder _ _ rfl, Custody.run_close]
      cases held <;> rfl

theorem owned_perform (op : CallbackOperation) (s : CallbackSession) :
    ((perform op).run s).2.owned = if op.releases then none else s.owned := by
  rw [state_perform]
  unfold owned left
  cases s.isDropped <;> cases op <;> rfl

theorem desk_perform (op : CallbackOperation) (s : CallbackSession) :
    ((perform op).run s).2.custody.desk =
      ((s.starts op).map fun x => x.run.2).getD s.custody.desk := by
  rw [state_perform]
  rfl

/-- How often the holder's callback changes hands in a list of operations. -/
def departures (s : CallbackSession) : List CallbackOperation → Nat
  | [] => 0
  | op :: ops =>
    let t := ((perform op).run s).2
    (if t.owned = s.owned then 0 else 1) + t.departures ops

theorem owned_perform_of_none (h : s.owned = none) (op : CallbackOperation) :
    ((perform op).run s).2.owned = none := by
  rw [owned_perform, h, ite_self]

theorem departures_of_none (h : s.owned = none) (ops : List CallbackOperation) :
    s.departures ops = 0 := by
  induction ops generalizing s with
  | nil => rfl
  | cons op ops ih =>
    have hstep := owned_perform_of_none h op
    simp only [departures, hstep, h, if_true, ih hstep]

theorem departures_le_one (s : CallbackSession) (ops : List CallbackOperation) :
    s.departures ops ≤ 1 := by
  induction ops generalizing s with
  | nil => exact Nat.zero_le 1
  | cons op ops ih =>
    rw [departures]
    by_cases hsame : ((perform op).run s).2.owned = s.owned
    · have hrest := ih ((perform op).run s).2
      simp only [hsame, if_true]
      omega
    · have hnone : ((perform op).run s).2.owned = none := by
        rw [owned_perform] at hsame ⊢
        split at hsame
        · next hop => rw [if_pos hop]
        · exact absurd rfl hsame
      simp only [hsame, if_false, departures_of_none hnone ops]
      omega

theorem owned_after (s : CallbackSession) (ops : List CallbackOperation) :
    (s.after ops).owned = s.owned ∨ (s.after ops).owned = none := by
  induction ops generalizing s with
  | nil => exact .inl rfl
  | cons op ops ih =>
    have hstep := owned_perform op s
    rcases ih ((perform op).run s).2 with hlast | hlast
    · rw [after, hlast, hstep]
      split
      · exact .inr rfl
      · exact .inl rfl
    · exact .inr hlast

theorem steady_after {P : Desk → Prop} (hP : Desk.Steady (fun _ => True) P)
    (hs : P s.custody.desk) (ops : List CallbackOperation) : P (s.after ops).custody.desk := by
  induction ops generalizing s with
  | nil => exact hs
  | cons op ops ih => exact ih (keeps_perform hP s.callback op s ⟨rfl, hs⟩).2

/-- How it is refused to use a callback that has been let go of. Nobody can be asked once the holder
is destroyed. -/
def refusal (s : CallbackSession) (name : String) : Failure :=
  if s.isDropped then .noAttribute "NoneType" name else .callbackGone

theorem run_of_not_owned (h : s.owned = none) (devices : List Device) (result : Given) :
    (perform .peek).run s = (.error (s.refusal "peek"), s) ∧
      (perform .handOff).run s = (.error (s.refusal "hand_off"), s) ∧
      (perform (.fire devices result)).run s = (.error (s.refusal "fire"), s) ∧
      (perform .close).run s =
        (if s.isDropped then .error (s.refusal "close") else .ok (.flag false), s) := by
  obtain ⟨callback, ⟨held, desk⟩, isDropped⟩ := s
  cases isDropped with
  | true => exact ⟨rfl, rfl, rfl, rfl⟩
  | false =>
    cases h
    exact ⟨rfl, rfl, rfl, rfl⟩

theorem owned_eq_some (h : s.owned = some id) : s.isDropped = false ∧ s.custody.held = some id := by
  unfold owned at h
  split at h
  · cases h
  · next hd => exact ⟨by simpa using hd, h⟩

theorem answer_close_owned (h : s.owned = some id) :
    ((perform .close).run s).1 = (s.closing id).run.1.map fun _ => .flag true := by
  obtain ⟨hd, hheld⟩ := owned_eq_some h
  rw [perform, run_bind_pure, run_onHolder _ _ hd, Custody.run_close, hheld]
  change Except.map _ (Except.map _ (s.closing id).run.1) = _
  cases (s.closing id).run.1 <;> rfl

/-- A closing that says so has delivered the failure due to shutdown to a sink that had received
nothing. -/
theorem received_of_close (honce : s.custody.desk.DeliversOnce)
    (hknown : ∀ id, s.owned = some id → id < s.custody.desk.callbacks.length)
    (hclose : ((perform .close).run s).1 = .ok (.flag true)) :
    ∃ id x, s.owned = some id ∧ s.custody.desk.received id = [] ∧
      ((perform .close).run s).2.custody.desk.received id = [x] ∧ x.devices = [] ∧
      x.outcome = .failedDueToShutdown := by
  cases ho : s.owned with
  | none =>
    rw [(run_of_not_owned ho [] (.plain .null)).2.2.2] at hclose
    cases hd : s.isDropped <;> simp [hd] at hclose
  | some id =>
    rw [answer_close_owned ho] at hclose
    obtain ⟨_, hrun, -⟩ := map_eq_ok_iff.mp hclose
    let d := s.custody.desk.noted [Custody.closingNote (s.custody.desk.labelOf id)]
    obtain ⟨c, hc⟩ : ∃ c, d.callbacks[id]? = some c :=
      ⟨_, List.getElem?_eq_getElem (hknown id ho)⟩
    have hu : c.used = false := by
      cases hu : c.used with
      | false => rfl
      | true =>
        have hrefused : (s.closing id).run = (.error (.callbackUsed c.label), d) :=
          (Desk.Ends.used hc hu).run_eq
        rw [hrefused] at hrun
        cases hrun
    have hnone := honce.received_of_unused ((Desk.isUsed_eq hc).trans hu)
    have hspent := Desk.spent_runCallback hc hu hnone [] (.ofOutcome .failedDueToShutdown)
    rw [Callback.deliveriesOf_outcome] at hspent
    refine ⟨id, c.delivery id [] .failedDueToShutdown, rfl, hnone, ?_, rfl, rfl⟩
    rw [desk_perform, starts, ho]
    exact hspent.received

theorem callbacks_of_starts {op : CallbackOperation} {x : Started} (h : x ∈ s.starts op) :
    x.desk.callbacks = s.custody.desk.callbacks := by
  cases op with
  | run devices result =>
    cases h
    rfl
  | fire devices result =>
    obtain ⟨id, -, rfl⟩ := Option.map_eq_some_iff.mp h
    rfl
  | close | drop =>
    obtain ⟨id, -, rfl⟩ := Option.map_eq_some_iff.mp h
    rfl
  | display | peek | handOff => cases h

/-- What an operation runs ends after at most so many runs one inside the other, with the desk that
the operation leaves. -/
def EndsWithin (n : Nat) (s : CallbackSession) (op : CallbackOperation) : Prop :=
  ∀ x ∈ s.starts op, ∃ k ≤ n, ∃ r, Desk.Ends k x.callback x.devices x.result x.desk r
    ((perform op).run s).2.custody.desk

theorem endsWithin_callbacks (s : CallbackSession) (op : CallbackOperation) :
    s.EndsWithin s.custody.desk.callbacks.length op := by
  intro x hx
  obtain ⟨k, hk, hends⟩ := Desk.ends_run x.callback x.devices x.result x.desk
  have hunused := x.desk.unused_le
  rw [callbacks_of_starts hx] at hunused
  refine ⟨k, Nat.le_trans hk hunused, x.run.1, ?_⟩
  rw [desk_perform, Option.mem_def.mp hx]
  exact hends

theorem deliversOnce_start (label : String) (sink : Sink) (wraps : Bool) :
    (start label sink wraps).custody.desk.DeliversOnce := by
  cases wraps <;> exact fun _ => Nat.zero_le _

theorem length_start_le (label : String) (sink : Sink) (wraps : Bool) :
    (start label sink wraps).custody.desk.callbacks.length ≤ 2 := by
  cases wraps <;> simp [start]

theorem owned_start_lt (label : String) (sink : Sink) (wraps : Bool) {id : Nat}
    (h : (start label sink wraps).owned = some id) :
    id < (start label sink wraps).custody.desk.callbacks.length := by
  cases wraps <;> cases h <;> simp [start]

end CallbackSession

open CallbackSession in
/-- A callback and a holder of it, or of another callback over the same sink, whatever has been done
with them, and whatever the sink does. Every step ends, within two runs inside the first. No
callback has delivered twice: one that was used is refused, also by its own sink. The holder lets go
once, by whatever releases the callback, however that ends. From then on it refuses to use the
callback and is not closed again, and nothing changes by that. It says that it was closed only if
its sink received the failure due to shutdown by then. -/
theorem holder_lets_go_once (label : String) (sink : Sink) (wraps : Bool)
    (ops : List CallbackOperation) :
    let first := start label sink wraps
    let s := first.after ops
    let d := s.custody.desk
    (∀ op, s.EndsWithin 2 op) ∧ (∀ id, (d.received id).length ≤ 1) ∧
      (∀ id c, d.callbacks[id]? = some c → ∀ devices v,
        (c.used = true →
          (Desk.runCallback id devices v).run d = (.error (.callbackUsed c.label), d)) ∧
        (c.used = false → c.sink = .rerun id → ∀ o, v.toOutcome = .ok o →
          (Desk.runCallback id devices v).run d =
            (.error (.callbackUsed c.label), d.settle id c devices o))) ∧
      first.departures ops ≤ 1 ∧
      (∀ op, op.releases = true → ((perform op).run s).2.owned = none) ∧
      (s.owned = none → s.isDropped = false → ∀ devices v,
        (perform .peek).run s = (.error .callbackGone, s) ∧
        (perform .handOff).run s = (.error .callbackGone, s) ∧
        (perform (.fire devices v)).run s = (.error .callbackGone, s) ∧
        (perform .close).run s = (.ok (.flag false), s)) ∧
      (((perform .close).run s).1 = .ok (.flag true) → ∃ id x, s.owned = some id ∧
        d.received id = [] ∧ ((perform .close).run s).2.custody.desk.received id = [x] ∧
        x.devices = [] ∧ x.outcome = .failedDueToShutdown) := by
  intro first s d
  have honce : d.DeliversOnce :=
    steady_after Desk.DeliversOnce.stable.toSteady (deliversOnce_start label sink wraps) ops
  have hlength : d.callbacks.length = first.custody.desk.callbacks.length :=
    steady_after (Desk.length_steady _) rfl ops
  have hlength_le : d.callbacks.length ≤ 2 := hlength ▸ length_start_le label sink wraps
  refine ⟨fun op x hx => ?_, honce.length_received_le, fun id c hc devices v => ?_,
    departures_le_one first ops, fun op hop => ?_, fun hgone hd devices v => ?_, fun hclose => ?_⟩
  · obtain ⟨k, hk, hends⟩ := s.endsWithin_callbacks op x hx
    exact ⟨k, Nat.le_trans hk hlength_le, hends⟩
  · refine ⟨fun hu => (Desk.Ends.used hc hu).run_eq, fun hu hs o hv => ?_⟩
    exact (Desk.ends_reentrant hc hu hv hs).run_eq
  · rw [owned_perform, if_pos hop]
  · have hrefused := run_of_not_owned hgone devices v
    simpa only [refusal, hd, Bool.false_eq_true, if_false] using hrefused
  · refine received_of_close honce (fun id hid => ?_) hclose
    -- what the holder owns now is what it owned first
    have hfirst : first.owned = some id := by
      rcases owned_after first ops with hsame | hnone
      · exact hsame.symm.trans hid
      · exact absurd (hid.symm.trans hnone) nofun
    exact hlength.symm ▸ owned_start_lt label sink wraps hfirst

open CallbackSession in
/-- A sink that runs the direct callback makes the closing of another holder fail, after both
callbacks have delivered; a quiet sink lets its holder be closed. -/
theorem holder_lets_go_once_reentrant :
    let s := (start "cb" (.rerun 0) true).after [.close]
    let quiet := start "cb" .accept false
    s.owned = none ∧ s.isDropped = false ∧ (perform .peek).run s = (.error .callbackGone, s) ∧
      (perform .close).run s = (.ok (.flag false), s) ∧ s.custody.desk.deliveries.length = 2 ∧
      (s.custody.desk.received 0).length ≤ 1 ∧
      (∃ c, s.custody.desk.callbacks[0]? = some c ∧ (Desk.runCallback 0 [] (.plain .null)).run
        s.custody.desk = (.error (.callbackUsed c.label), s.custody.desk)) ∧
      ∃ id x, quiet.owned = some id ∧
        ((perform .close).run quiet).2.custody.desk.received id = [x] ∧
        x.outcome = .failedDueToShutdown := by
  intro s quiet
  obtain ⟨_, honce, hused, _, _, hgone, _⟩ := holder_lets_go_once "cb" (.rerun 0) true [.close]
  obtain ⟨_, _, _, _, _, _, hclosed⟩ := holder_lets_go_once "cb" .accept false []
  have howned : s.owned = none := rfl
  obtain ⟨hpeek, _, _, hclose⟩ := hgone howned rfl [] (.plain .null)
  obtain ⟨c, hc, hu⟩ : ∃ c, s.custody.desk.callbacks[0]? = some c ∧ c.used = true := ⟨_, rfl, rfl⟩
  obtain ⟨id, x, hid, _, hreceived, _, houtcome⟩ := hclosed rfl
  exact ⟨howned, rfl, hpeek, hclose, rfl, honce 0,
    ⟨c, hc, (hused 0 c hc [] (.plain .null)).1 hu⟩, id, x, hid, hreceived, houtcome⟩

end CaptureArbiter
