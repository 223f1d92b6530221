import CaptureArbiter.Proofs.Hearing
import CaptureArbiter.Proofs.Keeps
import CaptureArbiter.Proofs.Received

/-!
# What is sent

A run of a callback sends its own devices and the outcome that its result names, also where a sink
passes them on to another callback. So what an arbiter sends is what it resolves its request with,
and what an authority sends is what its script runs the callback with.
-/

namespace CaptureArbiter

open Act

/-- All that has been delivered between two states of the desk satisfies `S`. -/
def Desk.Sends (S : Delivery → Prop) (d e : Desk) : Prop :=
  ∃ new, e.deliveries = d.deliveries ++ new ∧ ∀ x ∈ new, S x

/-- The delivery is of these devices, with the outcome that the result names. -/
def Delivery.Carries (devices : List Device) (result : Given) (x : Delivery) : Prop :=
  x.devices = devices ∧ result.toOutcome = .ok x.outcome

namespace Desk

variable {S T : Delivery → Prop} {d e f : Desk}

theorem sends_of_eq (h : e.deliveries = d.deliveries) : Sends S d e := by
  refine ⟨[], ?_, ?_⟩
  · rw [h, List.append_nil]
  · intro x hx
    cases hx

theorem Sends.trans (h : Sends S d e) (h' : Sends S e f) : Sends S d f := by
  obtain ⟨new, hnew, hS⟩ := h
  obtain ⟨more, hmore, hS'⟩ := h'
  refine ⟨new ++ more, ?_, ?_⟩
  · rw [hmore, hnew, List.append_assoc]
  · intro x hx
    rcases List.mem_append.mp hx with hx | hx
    · exact hS x hx
    · exact hS' x hx

theorem Sends.mono (h : Sends S d e) (hST : ∀ x, S x → T x) : Sends T d e := by
  obtain ⟨new, hnew, hS⟩ := h
  exact ⟨new, hnew, fun x hx => hST x (hS x hx)⟩

theorem Sends.of_deliveries {d' e' : Desk} (h : Sends S d e) (hd : d'.deliveries = d.deliveries)
    (he : e'.deliveries = e.deliveries) : Sends S d' e' := by
  obtain ⟨new, hnew, hS⟩ := h
  exact ⟨new, by rw [he, hd, hnew], hS⟩

theorem sends_settle (d : Desk) (id : Nat) (c : Callback) (devices : List Device) {result : Given}
    {o : Outcome} (hr : result.toOutcome = .ok o) :
    Sends (Delivery.Carries devices result) d (d.settle id c devices o) := by
  refine ⟨_, deliveries_settle d id c devices o, ?_⟩
  intro x hx
  rw [List.mem_singleton.mp hx]
  exact ⟨rfl, hr⟩

theorem sends_runWithin (depth id : Nat) (devices : List Device) (result : Given) (d : Desk) :
    Sends (Delivery.Carries devices result) d
      ((runWithin depth id devices result).run d).2 := by
  -- on the depth: a sink that runs another callback passes on what it was given
  induction depth generalizing id result d with
  | zero => exact sends_of_eq rfl
  | succ depth ih =>
    rw [run_runWithin]
    cases hc : d.callbacks[id]? with
    | none => exact sends_of_eq rfl
    | some c =>
      cases hu : c.used with
      | true =>
        simp only [hu, if_true]
        exact sends_of_eq rfl
      | false =>
        simp only [hu, Bool.false_eq_true, if_false]
        cases hr : result.toOutcome with
        | error e => exact sends_of_eq rfl
        | ok o =>
          have hs := sends_settle d id c devices hr
          cases hk : c.sink with
          | accept => exact hs
          | fail e => exact hs
          | rerun other =>
            refine hs.trans ((ih other (.ofOutcome o) _).mono ?_)
            rintro x ⟨hdevices, houtcome⟩
            rw [Given.toOutcome_ofOutcome] at houtcome
            exact ⟨hdevices, hr.trans houtcome⟩

theorem sends_runCallback (id : Nat) (devices : List Device) (result : Given) (d : Desk) :
    Sends (Delivery.Carries devices result) d ((runCallback id devices result).run d).2 :=
  sends_runWithin _ id devices result d

theorem keeps_sends {devices : List Device} {result : Given}
    (h : ∀ x : Delivery, x.Carries devices result → S x) (id : Nat) :
    Keeps (Sends S d) (runCallback id devices result) :=
  fun e he => he.trans ((sends_runCallback id devices result e).mono h)

theorem keeps_sends_note (notes : List Note) : Keeps (Sends S d) (note notes) :=
  fun _ he => he.of_deliveries rfl rfl

end Desk

/-- The delivery is one that the play makes. -/
def Play.Gives (x : Delivery) : Play → Prop
  | .run devices result | .attempt devices result => x.Carries devices result
  | .park | .fail _ => False

/-- What an authority may do with a callback that it is offered. -/
def Consent.plays : Consent → List Play
  | .policy _ => [.run [] (.ofOutcome .permissionDenied)]
  | .handler (some script) | .scripted script _ => script
  | .decline | .handler none => []

theorem Play.keeps_sends {S : Delivery → Prop} {play : Play} (h : ∀ x, play.Gives x → S x)
    (id : Nat) (d : Desk) : Keeps (Desk.Sends S d) (play.perform id) := by
  cases play with
  | park => exact .modify fun _ he => he.of_deliveries rfl rfl
  | run devices result => exact Desk.keeps_sends h id
  | attempt devices result =>
    exact .bind (.attempt (Desk.keeps_sends h id)) fun _ => .pure ()
  | fail e => exact .fail e

theorem Consent.sends_offer (c : Consent) (r : Request) (id : Nat) (d : Desk) :
    Desk.Sends (fun x => ∃ play ∈ c.plays, play.Gives x) d ((c.offer r id).run d).2 := by
  have hscript {script : List Play} (hs : ∀ play ∈ script, play ∈ c.plays) :
      Keeps (Desk.Sends (fun x => ∃ play ∈ c.plays, play.Gives x) d)
        (Act.each (Play.perform id) script) :=
    .each fun play hplay => Play.keeps_sends (fun _ hx => ⟨play, hs play hplay, hx⟩) id d
  have hoffer : Keeps (Desk.Sends (fun x => ∃ play ∈ c.plays, play.Gives x) d) (c.offer r id) := by
    match c with
    | .decline | .handler none => exact .pure _
    | .policy blocked =>
      refine .ite (.bind (Desk.keeps_sends_note _) fun _ => ?_) (.pure _)
      refine .bind (Desk.keeps_sends (fun x hx => ?_) id) fun _ => .pure _
      exact ⟨_, List.mem_singleton.mpr rfl, hx⟩
    | .handler (some script) =>
      refine .bind (Desk.keeps_sends_note _) fun _ => .bind (.attempt (hscript fun _ h => h)) ?_
      intro ended
      cases ended with
      | ok _ => exact .pure _
      | error _ => exact .bind (Desk.keeps_sends_note _) fun _ => .pure _
    | .scripted script claim => exact .bind (hscript fun _ h => h) fun _ => .pure claim
  exact hoffer d (Desk.sends_of_eq rfl)

namespace Hearing

theorem sends_resolve (devices : List Device) (o : Outcome) (h : Hearing) :
    Desk.Sends (fun x => x.devices = devices ∧ x.outcome = o) h.office.desk
      ((resolve devices o).run h).2.office.desk := by
  have hrun := fun id => (Desk.sends_runCallback id devices (.ofOutcome o)
    (h.noted [resolvedNote h.arbiter.request devices o.name]).office.desk).of_deliveries rfl rfl
  rw [run_resolve (Given.valueText_ofOutcome o)]
  cases hh : h.arbiter.held with
  | none => exact Desk.sends_of_eq rfl
  | some id =>
    have hid := hrun id
    simp only
    cases hr : (Desk.runCallback id devices (.ofOutcome o)).run
        (h.noted [resolvedNote h.arbiter.request devices o.name]).office.desk with
    | mk r d =>
      rw [hr] at hid
      have hsent : Desk.Sends (fun x => x.devices = devices ∧ x.outcome = o) h.office.desk d := by
        refine Desk.Sends.mono (hid.of_deliveries rfl rfl) ?_
        rintro x ⟨hdevices, houtcome⟩
        rw [Given.toOutcome_ofOutcome] at houtcome
        exact ⟨hdevices, (Except.ok.inj houtcome).symm⟩
      cases r with
      | ok _ => exact hsent
      | error e => exact hsent

theorem sends_accept (h : Hearing) :
    Desk.Sends (fun x => h.selected = .ok x.devices ∧ x.outcome = .ok) h.office.desk
      (accept.run h).2.office.desk := by
  cases hd : h.selected with
  | error e =>
    rw [run_accept_error hd]
    exact Desk.sends_of_eq rfl
  | ok devices =>
    rw [run_accept_ok hd]
    refine Desk.Sends.mono ((sends_resolve devices .ok h.consulted).of_deliveries rfl rfl) ?_
    rintro x ⟨rfl, houtcome⟩
    exact ⟨rfl, houtcome⟩

end Hearing

end CaptureArbiter
