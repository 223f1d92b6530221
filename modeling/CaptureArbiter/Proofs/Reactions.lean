import CaptureArbiter.Proofs.Accounts

/-!
# What sinks come to

A fresh callback that is run hands its delivery to the sink before anything else happens, and then
the run answers what the sink comes to: it is done, it fails, or another callback does so in its
stead. That depends on the callbacks of the desk alone.
-/

namespace CaptureArbiter

open Act

/-- Between two states of the desk the sink of a callback has taken a delivery. Only a sink that
runs another callback can make further ones. -/
structure Desk.Takes (c : Callback) (x : Delivery) (d e : Desk) : Prop where
  first : d.deliveries ++ [x] <+: e.deliveries
  only : (∀ other, c.sink ≠ .rerun other) → e.deliveries = d.deliveries ++ [x]

namespace Callback

/-- What a run of a callback delivers. -/
def delivery (c : Callback) (id : Nat) (devices : List Device) (o : Outcome) : Delivery :=
  ⟨id, c.ticket.map (·.number), devices, o⟩

/-- What the sink receives by the first run of a callback. -/
def deliveriesOf (c : Callback) (id : Nat) (devices : List Device) (result : Given) :
    List Delivery :=
  match result.toOutcome with
  | .ok o => [c.delivery id devices o]
  | .error _ => []

theorem deliveriesOf_outcome {c : Callback} {id : Nat} {devices : List Device} (o : Outcome) :
    c.deliveriesOf id devices (.ofOutcome o) = [c.delivery id devices o] := by
  rw [deliveriesOf, Given.toOutcome_ofOutcome]

end Callback

namespace Desk

theorem Takes.of_deliveries {c : Callback} {x : Delivery} {d e d' e' : Desk} (h : Takes c x d e)
    (hd : d'.deliveries = d.deliveries) (he : e'.deliveries = e.deliveries) : Takes c x d' e' where
  first := by
    rw [hd, he]
    exact h.first
  only hplain := by
    rw [hd, he]
    exact h.only hplain

theorem deliveries_stable (old : List Delivery) :
    Desk.Stable (fun _ => True) (fun d => old <+: d.deliveries) where
  named _ := trivial
  noted _ h := h
  parked _ h := h
  tallied _ h := h
  added _ h := h
  wasted _ _ _ _ h := h
  settled devices o _ _ h := by
    rw [deliveries_settle]
    exact h.trans (List.prefix_append ..)

variable {id : Nat} {c : Callback} {d : Desk}

theorem run_of_used (hc : d.callbacks[id]? = some c) (hu : c.used = true) (devices : List Device)
    (result : Given) :
    (runCallback id devices result).run d = (.error (.callbackUsed c.label), d) := by
  rw [run_runCallback, hc]
  simp only [hu, if_true]

theorem run_of_fresh (hc : d.callbacks[id]? = some c) (hu : c.used = false)
    (devices : List Device) (o : Outcome) :
    (runCallback id devices (.ofOutcome o)).run d =
      (react (fun other => runCallback other devices (.ofOutcome o)) c.sink).run
        (d.settle id c devices o) := by
  rw [run_runCallback, hc]
  simp only [hu, Bool.false_eq_true, if_false, Given.toOutcome_ofOutcome]

theorem spent_runCallback (hc : d.callbacks[id]? = some c) (hu : c.used = false)
    (hr : d.received id = []) (devices : List Device) (result : Given) :
    ((runCallback id devices result).run d).2.Spent id (c.deliveriesOf id devices result) := by
  have hlt := lt_of_callback hc
  rw [run_runCallback, hc, Callback.deliveriesOf]
  simp only [hu, Bool.false_eq_true, if_false]
  cases result.toOutcome with
  | error e => exact ⟨isUsed_markUsed_self hlt, hr⟩
  | ok o =>
    have hspent : (d.settle id c devices o).Spent id [c.delivery id devices o] := by
      refine ⟨isUsed_settle_self c devices o hlt, ?_⟩
      rw [received_settle_self, hr]
      rfl
    -- the sink may run any callback by then, this one too
    cases c.sink with
    | accept => exact hspent
    | fail e => exact hspent
    | rerun other => exact (Spent.stable id _).keeps_runCallback other devices trivial _ hspent

theorem takes_run (hc : d.callbacks[id]? = some c) (hu : c.used = false) (devices : List Device)
    (o : Outcome) :
    Takes c (c.delivery id devices o) d ((runCallback id devices (.ofOutcome o)).run d).2 := by
  have hs : (d.settle id c devices o).deliveries = d.deliveries ++ [c.delivery id devices o] :=
    deliveries_settle ..
  rw [run_of_fresh hc hu]
  cases hk : c.sink with
  | accept | fail e =>
    refine ⟨?_, fun _ => hs⟩
    rw [← hs]
    exact List.prefix_refl _
  | rerun other =>
    have hgrow : (d.settle id c devices o).deliveries <+:
        ((runCallback other devices (.ofOutcome o)).run (d.settle id c devices o)).2.deliveries :=
      (deliveries_stable _).keeps_runCallback other devices trivial _ (List.prefix_refl _)
    rw [hs] at hgrow
    exact ⟨hgrow, fun hplain => absurd hk (hplain other)⟩

end Desk

namespace Desk

variable {id : Nat} {c : Callback} {d e : Desk}

theorem callbacks_settle_congr (h : d.callbacks = e.callbacks) (id : Nat) (c : Callback)
    (devices : List Device) (o : Outcome) :
    (d.settle id c devices o).callbacks = (e.settle id c devices o).callbacks := by
  rw [callbacks_settle, callbacks_settle, markUsed, markUsed, h]

theorem answer_runWithin_congr (h : d.callbacks = e.callbacks) (depth id : Nat)
    (devices : List Device) (result : Given) :
    ((runWithin depth id devices result).run d).1 =
      ((runWithin depth id devices result).run e).1 := by
  induction depth generalizing id result d e with
  | zero => rfl
  | succ depth ih =>
    rw [run_runWithin, run_runWithin, h]
    cases e.callbacks[id]? with
    | none => rfl
    | some c =>
      cases hu : c.used with
      | true => simp only [hu, if_true]
      | false =>
        simp only [hu, Bool.false_eq_true, if_false]
        cases result.toOutcome with
        | error f => rfl
        | ok o =>
          have hsettled := callbacks_settle_congr h id c devices o
          cases c.sink with
          | accept | fail f => rfl
          | rerun other => exact ih hsettled other (.ofOutcome o)

/-- What the sink of a callback comes to when it has taken a delivery. -/
def reaction (d : Desk) (id : Nat) (c : Callback) (devices : List Device) (o : Outcome) :
    Except Failure Unit :=
  ((react (fun other => runCallback other devices (.ofOutcome o)) c.sink).run
    (d.settle id c devices o)).1

theorem reaction_of_fail {failure : Failure} (h : c.sink = .fail failure) (d : Desk) (id : Nat)
    (devices : List Device) (o : Outcome) : d.reaction id c devices o = .error failure := by
  rw [reaction, h]
  rfl

theorem reaction_of_accept (h : c.sink = .accept) (d : Desk) (id : Nat) (devices : List Device)
    (o : Outcome) : d.reaction id c devices o = .ok () := by
  rw [reaction, h]
  rfl

theorem reaction_congr (h : d.callbacks = e.callbacks) (id : Nat) (c : Callback)
    (devices : List Device) (o : Outcome) :
    d.reaction id c devices o = e.reaction id c devices o := by
  have hsettled := callbacks_settle_congr h id c devices o
  unfold reaction
  cases c.sink with
  | accept | fail f => rfl
  | rerun other =>
    simp only [react, runCallback, Act.run]
    rw [hsettled]
    exact answer_runWithin_congr hsettled _ other devices (.ofOutcome o)

theorem answer_of_fresh (hc : d.callbacks[id]? = some c) (hu : c.used = false)
    (devices : List Device) (o : Outcome) :
    ((runCallback id devices (.ofOutcome o)).run d).1 = d.reaction id c devices o := by
  rw [run_of_fresh hc hu, reaction]

theorem label_markUsed (d : Desk) (id j : Nat) :
    (d.markUsed j).callbacks[id]?.map (·.label) = d.callbacks[id]?.map (·.label) := by
  rw [getElem?_markUsed, Option.map_map]
  refine congrFun (congrArg Option.map (funext fun c => ?_)) _
  rw [Function.comp_apply]
  split <;> rfl

theorem label_steady (id : Nat) (label : Option String) :
    Desk.Steady (fun _ => True) fun d => d.callbacks[id]?.map (·.label) = label where
  named _ := trivial
  noted _ h := h
  parked _ h := h
  wasted _ _ _ _ h := (label_markUsed ..).trans h
  settled devices o _ _ h := by
    rw [callbacks_settle]
    exact (label_markUsed ..).trans h

theorem exists_used_of_run (hc : d.callbacks[id]? = some c) (devices : List Device)
    (result : Given) :
    ∃ c', ((runCallback id devices result).run d).2.callbacks[id]? = some c' ∧ c'.used = true ∧
      c'.label = c.label := by
  have hbefore : d.callbacks[id]?.map (·.label) = some c.label := by
    rw [hc]
    rfl
  have hkeeps : Keeps _ (runCallback id devices result) :=
    (label_steady id (some c.label)).keeps_runCallback id devices trivial
  have hlabel := hkeeps d hbefore
  have hused := isUsed_runCallback (lt_of_callback hc) devices result
  obtain ⟨c', hc', hsame⟩ := Option.map_eq_some_iff.mp hlabel
  exact ⟨c', hc', (isUsed_eq hc').symm.trans hused, hsame⟩

end Desk

end CaptureArbiter
