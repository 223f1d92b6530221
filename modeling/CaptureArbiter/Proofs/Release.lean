import CaptureArbiter.Proofs.Reactions

/-!
# Release resolves exactly once

However an arbiter was used before, its release settles its request: the sink has received exactly
one delivery, unless the authority has claimed the callback, which is then delivered through once,
as soon as it is run. Applications are taken to run callbacks with results that name outcomes. A
denial with a member of another enumeration, whose value no outcome has for its name, uses the held
callback up in vain, and only such a denial loses the request.
-/

namespace CaptureArbiter

open Act

namespace Given

/-- What is given names an outcome. -/
def NamesOutcome (g : Given) : Prop := ∃ o : Outcome, g.toOutcome = .ok o

/-- What is given has a value, as a log shows it, but names no outcome. -/
def isForeign (g : Given) : Bool := g.valueText.isOk && !g.toOutcome.isOk

theorem isForeign_iff {g : Given} :
    g.isForeign = true ↔ ∃ shown e, g.valueText = .ok shown ∧ g.toOutcome = .error e := by
  unfold isForeign
  cases g.valueText <;> cases g.toOutcome <;> simp [Except.isOk, Except.toBool]

theorem isForeign_of_shown {g : Given} {shown : String} (hs : g.valueText = .ok shown)
    (hn : ¬g.NamesOutcome) : g.isForeign = true := by
  cases he : g.toOutcome with
  | ok o => exact absurd ⟨o, he⟩ hn
  | error e => exact isForeign_iff.mpr ⟨shown, e, hs, he⟩

end Given

/-- Every sink has received one delivery if its callback is used, and none otherwise. -/
def Desk.DeliversExactly (d : Desk) : Prop :=
  ∀ id, (d.received id).length = if d.isUsed id then 1 else 0

namespace Desk.DeliversExactly

variable {d : Desk}

theorem settle (h : d.DeliversExactly) {id : Nat} {c : Callback} (hc : d.callbacks[id]? = some c)
    (hu : c.used = false) (devices : List Device) (o : Outcome) :
    (d.settle id c devices o).DeliversExactly := by
  intro j
  by_cases hj : id = j
  · subst hj
    have hid := h id
    rw [isUsed_eq hc, hu] at hid
    rw [received_settle_self, isUsed_settle_self c devices o (lt_of_callback hc),
      List.length_append, hid]
    rfl
  · rw [received_settle_of_ne d c devices o hj, isUsed_settle_of_ne d c devices o hj]
    exact h j

theorem stable : Desk.Stable Given.NamesOutcome Desk.DeliversExactly where
  named o := ⟨o, Given.toOutcome_ofOutcome o⟩
  noted _ h := h
  parked _ h := h
  tallied _ h := h
  added hc h := fun id => by
    rw [isUsed_append hc]
    exact h id
  wasted _ _ hv he _ := by
    obtain ⟨o, ho⟩ := hv
    rw [ho] at he
    cases he
  settled devices o hc hu h := h.settle hc hu devices o

end Desk.DeliversExactly

theorem Desk.DeliversExactly.received_of_unused {d : Desk} {id : Nat} (h : d.DeliversExactly)
    (hu : d.isUsed id = false) : d.received id = [] := by
  have hid := h id
  rw [hu] at hid
  exact List.eq_nil_of_length_eq_zero hid

namespace Desk

variable {d : Desk} {id : Nat} {result : Given}

theorem run_of_isUsed (hu : d.isUsed id = true) (devices : List Device) (result : Given) :
    ((runCallback id devices result).run d).2 = d := by
  cases hc : d.callbacks[id]? with
  | none => rw [run_runCallback, hc]
  | some c => rw [run_of_used hc ((isUsed_eq hc).symm.trans hu)]

theorem spent_of_vain {e : Failure} (hk : id < d.callbacks.length) (hu : d.isUsed id = false)
    (hr : d.received id = []) (he : result.toOutcome = .error e) (devices : List Device) :
    ((runCallback id devices result).run d).2.Spent id [] := by
  have hc : d.callbacks[id]? = some d.callbacks[id] := List.getElem?_eq_getElem hk
  have hspent := spent_runCallback hc ((isUsed_eq hc).symm.trans hu) hr devices result
  rwa [Callback.deliveriesOf, he] at hspent

end Desk

theorem Hearing.office_deny {result : Given} {shown : String} (hs : result.valueText = .ok shown)
    (h : Hearing) :
    ((deny result).run h).2.office =
      { h.office with
        desk :=
          let d := h.office.desk.noted [resolvedNote h.arbiter.request [] shown]
          match h.arbiter.held with
          | none => d
          | some id => ((Desk.runCallback id [] result).run d).2 } := by
  rw [deny, run_resolve hs]
  cases h.arbiter.held with
  | none => rfl
  | some id =>
    have hdesk : (h.noted [resolvedNote h.arbiter.request [] shown]).office.desk =
        h.office.desk.noted [resolvedNote h.arbiter.request [] shown] := rfl
    simp only [hdesk]
    cases (Desk.runCallback id [] result).run
        (h.office.desk.noted [resolvedNote h.arbiter.request [] shown]) with
    | mk r d => cases r <;> rfl

/-- A denial with what is no outcome changes the log only, unless it runs a fresh callback. -/
theorem Hearing.exists_notes_of_deny {result : Given} {h : Hearing} (hn : ¬result.NamesOutcome)
    (hu : result.isForeign = true → ∀ id ∈ h.arbiter.held, h.office.desk.isUsed id = true) :
    ∃ notes, ((deny result).run h).2.office =
      { h.office with desk := h.office.desk.noted notes } := by
  cases hs : result.valueText with
  | error e =>
    refine ⟨[], ?_⟩
    rw [deny, run_resolve_error hs, Desk.noted, List.append_nil]
  | ok shown =>
    refine ⟨[resolvedNote h.arbiter.request [] shown], ?_⟩
    rw [office_deny hs]
    cases hh : h.arbiter.held with
    | none => rfl
    | some id =>
      have hused := hu (Given.isForeign_of_shown hs hn) id hh
      simp only
      rw [Desk.run_of_isUsed (d := h.office.desk.noted _) hused]

/-- The denials with whatever the caller has. -/
def Operation.isDenial : Operation → Bool
  | .denyWith _ => true
  | _ => false

namespace Session

/-- Does the operation run the held callback for the first time, with what is no outcome? -/
def deniesInVain (s : Session) : Operation → Bool
  | .denyWith result =>
    result.isForeign && (s.arbiter.bind (·.held)).any fun id => !s.office.desk.isUsed id
  | _ => false

/-- Does one of the operations do so when its turn comes? -/
def losesRequest (s : Session) : List Operation → Bool
  | [] => false
  | op :: ops => s.deniesInVain op || (s.after [op]).losesRequest ops

/-- There is an arbiter, and it accounts for the callback. -/
def Accounts (id : Nat) (s : Session) : Prop :=
  ∃ a, s.arbiter = some a ∧ Hearing.Accounts id ⟨s.office, a⟩

theorem accounts_onHearing {α : Type} {id : Nat} (name : String) {a : Act Hearing α}
    (ha : ∀ h, h.Accounts id → (a.run h).2.Accounts id) :
    Keeps (Session.Accounts id) (onHearing name a) := by
  intro s hs
  obtain ⟨b, hb, hacc⟩ := hs
  rw [run_onHearing name a hb]
  exact ⟨_, rfl, ha _ hacc⟩

theorem accounts_of_arbiter {id : Nat} {op : Operation} (hop : op.usesArbiter = false) :
    Keeps (Session.Accounts id) (perform op) := by
  intro s hs
  obtain ⟨b, hb, hacc⟩ := hs
  have hd := Desk.Recalls.stable.holds.keeps_operation op.says_true s
    ⟨Consent.says_true _, Desk.recalls_self hacc.known⟩
  exact ⟨b, (arbiter_perform hop s).trans hb, hacc.withOffice hd.2⟩

theorem accounts_perform (id : Nat) {op : Operation} (hop : op ≠ .drop) :
    Keeps (Session.Accounts id) (perform op) := by
  cases huses : op.usesArbiter with
  | false => exact accounts_of_arbiter huses
  | true =>
    cases op with
    | drop => exact absurd rfl hop
    | run => exact .bind (accounts_onHearing "run" fun _ h => h.run) fun _ => .pure _
    | scopedRun => exact .bind (accounts_onHearing "run" fun _ h => h.scopedRun) fun _ => .pure _
    | close => exact .bind (accounts_onHearing "close" fun _ h => h.close) fun _ => .pure _
    | accept => exact .bind (accounts_onHearing "accept" fun _ h => h.accept) fun _ => .pure _
    | deny code =>
      exact .bind (accounts_onHearing "deny" fun _ h => h.denyNamed code) fun _ => .pure _
    | denyWith result =>
      exact .bind (accounts_onHearing "deny" fun _ h => h.resolve [] result) fun _ => .pure _
    | _ => cases huses

theorem accounts_after {id : Nat} {s : Session} {ops : List Operation}
    (hops : ∀ op ∈ ops, op ≠ .drop) (hs : s.Accounts id) : (s.after ops).Accounts id :=
  keeps_after (fun op hop => accounts_perform id (hops op hop)) hs

theorem isUsed_after {id : Nat} {s : Session} (hk : id < s.office.desk.callbacks.length)
    (hu : s.office.desk.isUsed id = true) (ops : List Operation) :
    (s.after ops).office.desk.isUsed id = true := by
  have hstart : s.office.desk.Recalls id true := ⟨hk, fun _ => hu⟩
  exact (Desk.Recalls.stable.after hstart ops).2 rfl

theorem accounts_arbitration (o : Office) (r : Request) (label : String) (sink : Sink) :
    (arbitration o r label sink).Accounts 0 :=
  ⟨_, rfl, Nat.zero_lt_one, fun _ hj => (Option.some.inj hj).symm, fun h => (nomatch h),
    fun h => (nomatch h)⟩

theorem deliversExactly_arbitration (o : Office) (r : Request) (label : String) (sink : Sink) :
    (arbitration o r label sink).office.desk.DeliversExactly := by
  intro id
  cases id <;> rfl

theorem office_denyWith {s : Session} {a : Arbiter} (ha : s.arbiter = some a) (result : Given) :
    ((perform (.denyWith result)).run s).2.office =
      ((Hearing.deny result).run ⟨s.office, a⟩).2.office := by
  have hrun := run_bind_pure (onHearing "deny" (Hearing.deny result)) (fun _ => Reply.nothing) s
  rw [run_onHearing "deny" _ ha] at hrun
  exact congrArg (fun x => x.2.office) hrun

theorem spent_of_deniesInVain {s : Session} {id : Nat} {op : Operation} (hacc : s.Accounts id)
    (hd : s.office.desk.DeliversExactly) (h : s.deniesInVain op = true) :
    ((perform op).run s).2.office.desk.Spent id [] := by
  obtain ⟨a, ha, hown⟩ := hacc
  cases op with
  | denyWith result =>
    simp only [deniesInVain, ha, Option.bind_some, Bool.and_eq_true, Option.any_eq_true,
      Bool.not_eq_true'] at h
    obtain ⟨hforeign, j, hj, hu⟩ := h
    obtain ⟨shown, e, hs, he⟩ := Given.isForeign_iff.mp hforeign
    have hid := hown.only j hj
    subst hid
    rw [office_denyWith ha, Hearing.office_deny hs, hj]
    exact Desk.spent_of_vain (d := s.office.desk.noted _) hown.known hu (hd.received_of_unused hu)
      he []
  | _ => cases h

theorem exact_of_denial {s : Session} {op : Operation} (hop : op.isDenial = true)
    (hs : s.office.Holds Given.NamesOutcome Desk.DeliversExactly)
    (hnot : s.deniesInVain op = false) :
    ((perform op).run s).2.office.Holds Given.NamesOutcome Desk.DeliversExactly := by
  cases op with
  | denyWith result =>
    by_cases hnames : result.NamesOutcome
    · have hsays : (Operation.denyWith result).Says Given.NamesOutcome := hnames
      exact Desk.DeliversExactly.stable.holds.keeps_operation hsays s hs
    · obtain ⟨office, arbiter⟩ := s
      cases arbiter with
      | none => exact hs
      | some a =>
        have hused : result.isForeign = true → ∀ id ∈ a.held, office.desk.isUsed id = true := by
          intro hforeign id hid
          simpa [deniesInVain, Option.mem_def.mp hid, hforeign] using hnot
        obtain ⟨notes, hnoted⟩ := Hearing.exists_notes_of_deny (h := ⟨office, a⟩) hnames hused
        rw [office_denyWith rfl, hnoted]
        exact ⟨hs.1, hs.2⟩
  | _ => cases hop

/-- What is used agrees with what has been delivered, unless a denial in vain has spent the
callback. -/
theorem exact_or_spent {id : Nat} {ops : List Operation} {s : Session} (hacc : s.Accounts id)
    (hs : s.office.Holds Given.NamesOutcome Desk.DeliversExactly)
    (hops : ∀ op ∈ ops, op ≠ .drop ∧ (op.isDenial = true ∨ op.Says Given.NamesOutcome)) :
    (s.losesRequest ops = true → (s.after ops).office.desk.Spent id []) ∧
      (s.losesRequest ops = false →
        (s.after ops).office.Holds Given.NamesOutcome Desk.DeliversExactly) := by
  induction ops generalizing s with
  | nil => exact ⟨fun h => (nomatch h), fun _ => hs⟩
  | cons op ops ih =>
    obtain ⟨⟨hdrop, hop⟩, hrest⟩ := List.forall_mem_cons.mp hops
    cases hvain : s.deniesInVain op with
    | true =>
      have hspent := spent_of_deniesInVain hacc hs.2 hvain
      have hlater := (Desk.Spent.stable id []).after hspent ops
      simp only [losesRequest, hvain, Bool.true_or]
      exact ⟨fun _ => hlater, fun h => (nomatch h)⟩
    | false =>
      have hnext : ((perform op).run s).2.office.Holds Given.NamesOutcome Desk.DeliversExactly :=
        hop.elim (fun h => exact_of_denial h hs hvain) fun h =>
          Desk.DeliversExactly.stable.holds.keeps_operation h s hs
      simp only [losesRequest, hvain, Bool.false_or]
      exact ih (accounts_perform id hdrop s hacc) hnext hrest

/-- Closing and destroying the arbiter do the same to the office, and what is left of the arbiter
holds nothing. -/
theorem release_eq {s : Session} {b : Arbiter} (hb : s.arbiter = some b) {last : Operation}
    (hlast : last = .close ∨ last = .drop) :
    (s.after [last]).office = (Hearing.close.run ⟨s.office, b⟩).2.office ∧
      ∀ c ∈ (s.after [last]).arbiter, c = { b with held := none } := by
  have hclose := run_onHearing "close" Hearing.close hb
  have harb := Hearing.arbiter_close ⟨s.office, b⟩
  rcases hlast with rfl | rfl
  · have hrun := run_bind_pure (onHearing "close" Hearing.close) Reply.flag s
    have hafter : s.after [.close] = ((onHearing "close" Hearing.close).run s).2 := by
      exact congrArg Prod.snd hrun
    rw [hafter, hclose]
    refine ⟨rfl, fun c hc => ?_⟩
    rw [← Option.some.inj hc]
    exact harb
  · have hafter : s.after [.drop] =
        { ((onHearing "close" Hearing.close).run s).2 with arbiter := none } := by
      change (drop.run s).2 = _
      rw [drop, run_bind_ok (run_get s), run_ite, hb]
      rfl
    rw [hafter, hclose]
    exact ⟨rfl, fun c hc => (nomatch hc)⟩

end Session

/-- An arbiter is used in any way, is released, and anything happens later. If a denial had a value
that is no outcome while the callback was held and unused, nothing is ever received. Else a request
that the authority has not claimed is resolved by then and for ever; for a claimed one the release
does nothing, and it is resolved once the claimed callback has been run. -/
theorem release_resolves_once (o : Office) (r : Request) (label : String) (sink : Sink)
    (ops : List Operation) (last : Operation) (more : List Operation)
    (hconsent : o.consent.Says Given.NamesOutcome)
    (hops : ∀ op ∈ ops, op ≠ .drop ∧ (op.isDenial = true ∨ op.Says Given.NamesOutcome))
    (hlast : last = .close ∨ last = .drop) (hmore : ∀ op ∈ more, op.Says Given.NamesOutcome) :
    let start := Session.arbitration o r label sink
    let used := start.after ops
    let released := used.after [last]
    let later := released.after more
    ∃ a, used.arbiter = some a ∧ (∀ b ∈ released.arbiter, b = { a with held := none }) ∧
      (start.losesRequest ops = true → later.office.desk.received 0 = []) ∧
      (start.losesRequest ops = false →
        (a.phase ≠ .delegatedToConsent → (later.office.desk.received 0).length = 1) ∧
        (a.phase = .delegatedToConsent → released.office = used.office ∧
          (later.office.desk.received 0).length =
            if later.office.desk.isUsed 0 then 1 else 0)) := by
  intro start used released later
  have haccounts := Session.accounts_arbitration o r label sink
  have hacc : used.Accounts 0 := Session.accounts_after (fun op hop => (hops op hop).1) haccounts
  obtain ⟨a, ha, hown⟩ := hacc
  obtain ⟨hoffice, harbiter⟩ := Session.release_eq ha hlast
  obtain ⟨hlost, hexact⟩ := Session.exact_or_spent haccounts
    ⟨hconsent, Session.deliversExactly_arbitration o r label sink⟩ hops
  refine ⟨a, ha, harbiter, fun hloses => ?_, fun hkeeps => ?_⟩
  · have hreleased := (Desk.Spent.stable 0 []).after (hlost hloses) [last]
    exact ((Desk.Spent.stable 0 []).after hreleased more).received
  -- what has been delivered agrees with what is used, up to the end
  have hsays : ∀ op ∈ [last], op.Says Given.NamesOutcome := by
    intro op hop
    rw [List.mem_singleton.mp hop]
    rcases hlast with rfl | rfl <;> trivial
  have hstable := Desk.DeliversExactly.stable.holds
  have hcount := (hstable.after hmore (hstable.after hsays (hexact hkeeps))).2 0
  refine ⟨fun hp => ?_, fun hp => ⟨?_, hcount⟩⟩
  · have hclosed : released.office.desk.isUsed 0 = true := by
      rw [hoffice]
      exact hown.isUsed_close hp
    have hknown : 0 < released.office.desk.callbacks.length := by
      rw [hoffice]
      exact hown.close.known
    rw [hcount, if_pos (Session.isUsed_after hknown hclosed more)]
  · have hheld := hown.claimed hp
    rw [hoffice, Hearing.run_close, hheld]

/-- A handler parks the callback and fails, and the arbiter is closed after further tries to resolve
the request. The parked callback is run twice, and its sink fails on the delivery. -/
theorem release_resolves_parked_once :
    let o : Office :=
      { consent := .handler (some [.park, .fail (.scripted "broken")])
        frames := ⟨[{ processId := 7, frameId := 1 }]⟩ }
    let r : Request := { processId := 7, frameId := 1, audio := .deviceAudio }
    let ops : List Operation :=
      [.denyWith (.plain (.text "OK")), .run, .accept, .deny (.int 3),
        .denyWith (.textMember "ArbiterState" "PENDING" "PENDING")]
    let more : List Operation :=
      [.runParked 0 [] (.ofOutcome .ok), .runParked (-1) [] (.ofOutcome .noHardware)]
    let start := Session.arbitration o r "" (.fail (.scripted "sink"))
    let later := ((start.after ops).after [.close]).after more
    o.consent.Says Given.NamesOutcome ∧
      (∀ op ∈ ops, op ≠ .drop ∧ (op.isDenial = true ∨ op.Says Given.NamesOutcome)) ∧
      (∀ op ∈ more, op.Says Given.NamesOutcome) ∧ start.losesRequest ops = false ∧
      (later.office.desk.received 0).length = 1 := by
  intro o r ops more start later
  have hconsent : o.consent.Says Given.NamesOutcome := by
    intro play hplay
    simp only [List.mem_cons, List.not_mem_nil, or_false] at hplay
    rcases hplay with rfl | rfl <;> trivial
  have hops : ∀ op ∈ ops, op ≠ .drop ∧ (op.isDenial = true ∨ op.Says Given.NamesOutcome) := by
    intro op hop
    simp only [ops, List.mem_cons, List.not_mem_nil, or_false] at hop
    rcases hop with rfl | rfl | rfl | rfl | rfl
    · exact ⟨Operation.noConfusion, .inl rfl⟩
    · exact ⟨Operation.noConfusion, .inr trivial⟩
    · exact ⟨Operation.noConfusion, .inr trivial⟩
    · exact ⟨Operation.noConfusion, .inr trivial⟩
    · exact ⟨Operation.noConfusion, .inl rfl⟩
  have hmore : ∀ op ∈ more, op.Says Given.NamesOutcome := by
    intro op hop
    simp only [more, List.mem_cons, List.not_mem_nil, or_false] at hop
    rcases hop with rfl | rfl <;> exact ⟨_, Given.toOutcome_ofOutcome _⟩
  have hkeeps : start.losesRequest ops = false := by decide +kernel
  refine ⟨hconsent, hops, hmore, hkeeps, ?_⟩
  obtain ⟨a, ha, _, _, hrest⟩ := release_resolves_once o r "" (.fail (.scripted "sink")) ops
    .close more hconsent hops (.inl rfl) hmore
  obtain ⟨_, hclaimed⟩ := hrest hkeeps
  have hphase : (start.after ops).arbiter.map (·.phase) = some .delegatedToConsent := by
    decide +kernel
  have hused : later.office.desk.isUsed 0 = true := by decide +kernel
  have hdelegated : a.phase = .delegatedToConsent := by
    rw [ha] at hphase
    exact Option.some.inj hphase
  have hcount := (hclaimed hdelegated).2
  simp only [later, start] at hused ⊢
  rw [if_pos hused] at hcount
  exact hcount

/-- A denial with a phase, which has a value but is no outcome, fails after the callback was let go
of. The arbiter is then closed in its first phase, in vain, and nothing has been received. -/
theorem denial_loses_request :
    let pending : Given := .textMember "ArbiterState" "PENDING" "PENDING"
    let start := Session.arbitration {} {} "" .accept
    let denial := (Session.perform (.denyWith pending)).run start
    let closing := (Session.perform .close).run denial.2
    (∃ e, denial.1 = .error e ∧ e.kind = .badValue ∧
        e.message = "<ArbiterState.PENDING: 'PENDING'> is not a valid ResultCode") ∧
      denial.2.arbiter.map (fun a => (a.phase, a.held)) = some (.pending, none) ∧
      closing.1 = .ok (.flag false) ∧ closing.2.office.desk.received 0 = [] := by
  intro pending start denial closing
  exact ⟨⟨_, rfl, rfl, by decide +kernel⟩, by decide +kernel, rfl, by decide +kernel⟩

end CaptureArbiter
