import CaptureArbiter.Desk

/-!
# What sinks receive

Deliveries are told apart by the callback that they came through. The lemmas say what each way of
changing a desk does to the deliveries of one sink and to the used callbacks; `run_runCallback` says
what a run of a callback does in each case, without its bound on the depth.
-/

namespace CaptureArbiter.Desk

/-- What the sink of a callback has received, in order. -/
def received (d : Desk) (id : Nat) : List Delivery := d.deliveries.filter (·.callback == id)

/-- The desk after an unused callback has been used up by a delivery to its sink. -/
def settle (d : Desk) (id : Nat) (c : Callback) (devices : List Device) (o : Outcome) : Desk :=
  (d.markUsed id).delivered id c.ticket devices o

/-- What a sink does after a delivery, if `again` runs another callback with it. -/
def react (again : Nat → Act Desk Unit) : Sink → Act Desk Unit
  | .accept => pure ()
  | .fail e => Act.fail e
  | .rerun other => again other

/-- How many callbacks can still deliver. -/
def unused (d : Desk) : Nat := d.callbacks.countP (!·.used)

theorem isUsed_eq {d : Desk} {id : Nat} {c : Callback} (h : d.callbacks[id]? = some c) :
    d.isUsed id = c.used := by
  simp only [isUsed, h, Option.map_some, Option.getD_some]

theorem isUsed_of_le {d : Desk} {id : Nat} (h : d.callbacks.length ≤ id) : d.isUsed id = false := by
  simp only [isUsed, List.getElem?_eq_none h, Option.map_none, Option.getD_none]

theorem isUsed_congr {d e : Desk} (h : d.callbacks = e.callbacks) (id : Nat) :
    d.isUsed id = e.isUsed id := by
  simp only [isUsed, h]

theorem lt_of_callback {d : Desk} {id : Nat} {c : Callback} (h : d.callbacks[id]? = some c) :
    id < d.callbacks.length :=
  (List.getElem?_eq_some_iff.mp h).1

theorem getElem?_markUsed (d : Desk) (id j : Nat) :
    (d.markUsed id).callbacks[j]? =
      (d.callbacks[j]?).map fun c => if id = j then { c with used := true } else c := by
  simp only [markUsed, List.getElem?_modify]
  rfl

theorem length_markUsed (d : Desk) (id : Nat) :
    (d.markUsed id).callbacks.length = d.callbacks.length := by
  simp only [markUsed, List.length_modify]

theorem isUsed_markUsed_self {d : Desk} {id : Nat} (h : id < d.callbacks.length) :
    (d.markUsed id).isUsed id = true := by
  simp only [isUsed, getElem?_markUsed, List.getElem?_eq_getElem h, Option.map_some, if_true,
    Option.getD_some]

theorem isUsed_markUsed_of_ne {id j : Nat} (d : Desk) (h : id ≠ j) :
    (d.markUsed id).isUsed j = d.isUsed j := by
  simp only [isUsed, getElem?_markUsed, if_neg h, Option.map_id']

theorem isUsed_append {d : Desk} {c : Callback} (hc : c.used = false) (id : Nat) :
    ({ d with callbacks := d.callbacks ++ [c] } : Desk).isUsed id = d.isUsed id := by
  by_cases hlt : id < d.callbacks.length
  · simp only [isUsed, List.getElem?_append_left hlt]
  · have hge : d.callbacks.length ≤ id := by omega
    rw [isUsed_of_le hge]
    simp only [isUsed, List.getElem?_append_right hge]
    cases hi : id - d.callbacks.length with
    | zero => simp [hc]
    | succ n => simp

theorem callbacks_delivered (d : Desk) (id : Nat) (t : Option Ticket) (devices : List Device)
    (o : Outcome) : (d.delivered id t devices o).callbacks = d.callbacks := by
  cases t <;> rfl

theorem deliveries_delivered (d : Desk) (id : Nat) (t : Option Ticket) (devices : List Device)
    (o : Outcome) :
    (d.delivered id t devices o).deliveries =
      d.deliveries ++ [⟨id, t.map (·.number), devices, o⟩] := by
  cases t <;> rfl

theorem callbacks_settle (d : Desk) (id : Nat) (c : Callback) (devices : List Device)
    (o : Outcome) : (d.settle id c devices o).callbacks = (d.markUsed id).callbacks :=
  callbacks_delivered ..

theorem deliveries_settle (d : Desk) (id : Nat) (c : Callback) (devices : List Device)
    (o : Outcome) :
    (d.settle id c devices o).deliveries =
      d.deliveries ++ [⟨id, c.ticket.map (·.number), devices, o⟩] :=
  deliveries_delivered ..

theorem received_ne_nil_iff {d : Desk} {id : Nat} :
    d.received id ≠ [] ↔ ∃ x ∈ d.deliveries, x.callback = id := by
  rw [received, Ne, List.filter_eq_nil_iff]
  simp

theorem received_settle_self (d : Desk) (id : Nat) (c : Callback) (devices : List Device)
    (o : Outcome) :
    (d.settle id c devices o).received id =
      d.received id ++ [⟨id, c.ticket.map (·.number), devices, o⟩] := by
  simp only [received, deliveries_settle, List.filter_append, List.filter_cons, List.filter_nil,
    beq_self_eq_true, if_true]

theorem received_settle_of_ne {id j : Nat} (d : Desk) (c : Callback) (devices : List Device)
    (o : Outcome) (h : id ≠ j) : (d.settle id c devices o).received j = d.received j := by
  have hj : (id == j) = false := by simpa using h
  simp only [received, deliveries_settle, List.filter_append, List.filter_cons, List.filter_nil,
    hj, Bool.false_eq_true, if_false, List.append_nil]

theorem received_of_append {d e : Desk} {x : Delivery} {id : Nat}
    (h : e.deliveries = d.deliveries ++ [x]) (hx : x.callback = id) :
    e.received id = d.received id ++ [x] := by
  simp only [received, h, List.filter_append, List.filter_cons, List.filter_nil, hx,
    beq_self_eq_true, if_true]

theorem isUsed_settle_self {d : Desk} {id : Nat} (c : Callback) (devices : List Device)
    (o : Outcome) (h : id < d.callbacks.length) :
    (d.settle id c devices o).isUsed id = true := by
  rw [isUsed_congr (callbacks_settle ..), isUsed_markUsed_self h]

theorem isUsed_settle_of_ne {id j : Nat} (d : Desk) (c : Callback) (devices : List Device)
    (o : Outcome) (h : id ≠ j) : (d.settle id c devices o).isUsed j = d.isUsed j := by
  rw [isUsed_congr (callbacks_settle ..), isUsed_markUsed_of_ne d h]

theorem run_note (notes : List Note) (d : Desk) :
    (note notes).run d = (.ok (), d.noted notes) :=
  rfl

theorem run_runWithin (depth id : Nat) (devices : List Device) (result : Given) (d : Desk) :
    (runWithin (depth + 1) id devices result).run d =
      match d.callbacks[id]? with
      | none => (.ok (), d)
      | some c =>
        if c.used then (.error (.callbackUsed c.label), d)
        else match result.toOutcome with
          | .error e => (.error e, d.markUsed id)
          | .ok o =>
            (react (fun other => runWithin depth other devices (.ofOutcome o)) c.sink).run
              (d.settle id c devices o) := by
  rw [runWithin, Act.run_bind_ok (Act.run_get d)]
  cases hc : d.callbacks[id]? with
  | none => rfl
  | some c =>
    cases hu : c.used with
    | true => simp only [hu, if_true, Act.run_fail]
    | false =>
      simp only [hu, Bool.false_eq_true, if_false]
      rw [Act.run_bind_ok (Act.run_modify _ d)]
      cases hr : result.toOutcome with
      | error e => exact Act.run_bind_error (Act.run_ofExcept ..)
      | ok o =>
        rw [Act.run_bind_ok (Act.run_ofExcept ..), Act.run_bind_ok (Act.run_modify ..)]
        cases hs : c.sink <;> rfl

theorem unused_le (d : Desk) : d.unused ≤ d.callbacks.length := List.countP_le_length

theorem unused_settle {d : Desk} {id : Nat} {c : Callback} (hc : d.callbacks[id]? = some c)
    (hu : c.used = false) (devices : List Device) (o : Outcome) :
    (d.settle id c devices o).unused + 1 = d.unused := by
  obtain ⟨xs, x, ys, hsplit, hlen, hmodify⟩ :=
    List.exists_of_modify (fun c : Callback => { c with used := true }) (lt_of_callback hc)
  have hx : x = c := by
    rw [hsplit, ← hlen, List.getElem?_append_right (Nat.le_refl _), Nat.sub_self] at hc
    exact Option.some.inj hc
  have hnot : x.used = false := by rw [hx, hu]
  simp only [unused, callbacks_settle, markUsed, hmodify]
  simp only [hsplit, List.countP_append, List.countP_cons, hnot, Bool.not_true, Bool.not_false,
    Bool.false_eq_true, if_true, if_false]
  omega

/-- A run makes at most as many deliveries as there are unused callbacks, so a larger depth makes no
difference. -/
theorem run_runWithin_congr {n m : Nat} {d : Desk} (hn : d.unused < n) (hm : d.unused < m)
    (id : Nat) (devices : List Device) (result : Given) :
    (runWithin n id devices result).run d = (runWithin m id devices result).run d := by
  -- each delivery uses up a callback, so both depths stay above what is left
  induction n generalizing m d id result with
  | zero => omega
  | succ n ih =>
    cases m with
    | zero => omega
    | succ m =>
      rw [run_runWithin, run_runWithin]
      cases hc : d.callbacks[id]? with
      | none => rfl
      | some c =>
        cases hu : c.used with
        | true => simp only [hu, if_true]
        | false =>
          simp only [hu, Bool.false_eq_true, if_false]
          cases result.toOutcome with
          | error e => rfl
          | ok o =>
            have hless := unused_settle hc hu devices o
            cases c.sink with
            | accept | fail e => rfl
            | rerun other => exact ih (by omega) (by omega) other (.ofOutcome o)

/-- A run of an unknown callback does nothing, and one of a used callback fails. Otherwise the
callback is used up, and its sink receives a delivery if the result names an outcome. -/
theorem run_runCallback (id : Nat) (devices : List Device) (result : Given) (d : Desk) :
    (runCallback id devices result).run d =
      match d.callbacks[id]? with
      | none => (.ok (), d)
      | some c =>
        if c.used then (.error (.callbackUsed c.label), d)
        else match result.toOutcome with
          | .error e => (.error e, d.markUsed id)
          | .ok o =>
            (react (fun other => runCallback other devices (.ofOutcome o)) c.sink).run
              (d.settle id c devices o) := by
  change (runWithin (d.callbacks.length + 1) id devices result).run d = _
  rw [run_runWithin]
  cases hc : d.callbacks[id]? with
  | none => rfl
  | some c =>
    cases hu : c.used with
    | true => simp only [hu, if_true]
    | false =>
      simp only [hu, Bool.false_eq_true, if_false]
      cases result.toOutcome with
      | error e => rfl
      | ok o =>
        have hless := unused_settle hc hu devices o
        have hold := d.unused_le
        have hnew := (d.settle id c devices o).unused_le
        cases c.sink with
        | accept | fail e => rfl
        | rerun other =>
          exact run_runWithin_congr (by omega) (by omega) other devices (.ofOutcome o)

end CaptureArbiter.Desk
