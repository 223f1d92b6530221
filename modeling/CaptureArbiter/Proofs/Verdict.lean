import CaptureArbiter.Proofs.Hearing
import CaptureArbiter.Proofs.Stable

/-!
# The verdict on a request

What becomes of a request that no application takes over is a function of the request, the live
frames, the catalog and the blocked origins. A hearing of such a request ends with that verdict: the
sink receives the verdict's devices and outcome before anything else can happen, and the verdict's
answer is given.
-/

namespace CaptureArbiter

open Act

namespace Consent

/-- Is an origin blocked? Origins are compared in their normal form, and the empty one is not
blocked. -/
def isBlocked (origins : List String) (origin : String) : Bool :=
  normalOrigin origin != "" && (origins.map normalOrigin).contains (normalOrigin origin)

/-- An authority that the program makes for a list of blocked origins, which only a policy heeds. -/
def ConfiguredWith (origins : List String) : Consent → Prop
  | .decline | .handler _ => origins = []
  | .policy blocked => .policy blocked = ofBlockedOrigins origins
  | .scripted .. => False

/-- No handler is installed. -/
def Idle (c : Consent) : Prop := ∀ script, c ≠ .handler (some script)

theorem contains_ofBlockedOrigins (origins : List String) (origin : String) :
    ((origins.map normalOrigin).filter (· != "")).contains (normalOrigin origin) =
      isBlocked origins origin := by
  rw [isBlocked, Bool.eq_iff_iff]
  simp only [List.contains_iff_mem, List.mem_filter, Bool.and_eq_true, and_comm]

theorem isBlocked_nil (origin : String) : isBlocked [] origin = false := by
  simp only [isBlocked, List.map_nil, List.contains_nil, Bool.and_false]

variable {c : Consent} {origins : List String} {r : Request}

theorem run_offer_blocked (hc : c.ConfiguredWith origins)
    (hb : isBlocked origins r.securityOrigin = true) (id : Nat) (d : Desk) :
    (c.offer r id).run d =
      let note := deniedNote (normalOrigin r.securityOrigin)
      let y := (Desk.runCallback id [] (.ofOutcome .permissionDenied)).run (d.noted [note])
      (y.1.map fun _ => .bool true, y.2) := by
  cases c with
  | decline | handler script =>
    rw [show origins = [] from hc, isBlocked_nil] at hb
    cases hb
  | scripted script claim => cases hc
  | policy blocked =>
    have hcontains : blocked.contains (normalOrigin r.securityOrigin) = true := by
      rw [Consent.policy.inj hc, contains_ofBlockedOrigins, hb]
    rw [offer]
    simp only [hcontains, if_true]
    rw [run_bind_ok (Desk.run_note ..)]
    exact run_bind_pure _ (fun _ => Value.bool true) _

theorem run_offer_declined (hc : c.ConfiguredWith origins) (hi : c.Idle)
    (hb : isBlocked origins r.securityOrigin = false) (id : Nat) (d : Desk) :
    (c.offer r id).run d = (.ok (.bool false), d) := by
  cases c with
  | decline => rfl
  | handler script =>
    cases script with
    | none => rfl
    | some script => exact absurd rfl (hi script)
  | scripted script claim => cases hc
  | policy blocked =>
    have hcontains : blocked.contains (normalOrigin r.securityOrigin) = false := by
      rw [Consent.policy.inj hc, contains_ofBlockedOrigins, hb]
    rw [offer]
    simp only [hcontains, Bool.false_eq_true, if_false]
    rfl

theorem run_offer_handler (script : List Play) (r : Request) (id : Nat) (d : Desk) :
    (((Consent.handler (some script)).offer r id).run d).1 = .ok (.bool true) := by
  rw [offer, run_bind_ok (Desk.run_note ..), run_bind_ok (run_attempt ..)]
  cases ((Act.each (Play.perform id) script).run (d.noted [handingNote r])).1 with
  | ok _ => rfl
  | error _ => rfl

end Consent

/-- What the sink of a request receives, and what is answered to the request. -/
structure Verdict where
  devices : List Device
  outcome : Outcome
  answer : Except Failure Phase

namespace Verdict

/-- The request is released without a decision. -/
def shutdown (answer : Except Failure Phase) : Verdict := ⟨[], .failedDueToShutdown, answer⟩

/-- What an accepted request is granted. -/
def granted (catalog : Catalog) (r : Request) : List Device :=
  if !(r.wantsMicrophone || r.wantsCamera) then []
  else match r.kind with
    | .openPepper => (Selection.pepperDevice catalog r).toList
    | .generateStream => Selection.streamDevices catalog r r.wantsMicrophone r.wantsCamera
    | .deviceAccess => catalog.defaults r.wantsMicrophone r.wantsCamera
    | .deviceUpdate => []

/-- Does an update ask for hardware? -/
def asksByUpdate (r : Request) : Bool :=
  r.kind == .deviceUpdate && (r.wantsMicrophone || r.wantsCamera)

/-- The verdict on a request. The first case that applies counts. -/
def of (frames : Frames) (catalog : Catalog) (origins : List String) (r : Request) : Verdict :=
  if r.isScreenCapture then
    match Screen.grant r with
    | .ok devices => ⟨devices, Screen.outcome devices, .ok .resolved⟩
    | .error e => shutdown (.error e)
  else if (frames.find? r.processId r.frameId).isNone then shutdown (.ok .abandonedNoFrame)
  else if Consent.isBlocked origins r.securityOrigin then
    ⟨[], .permissionDenied, .ok .delegatedToConsent⟩
  else if !catalog.hasAny then ⟨[], .noHardware, .ok .resolved⟩
  else if asksByUpdate r then shutdown (.error (.unreachableRequest .deviceUpdate))
  else ⟨granted catalog r, .ok, .ok .resolved⟩

theorem choose_eq (catalog : Catalog) (r : Request) :
    Selection.choose catalog r r.wantsMicrophone r.wantsCamera =
      if asksByUpdate r then .error (.unreachableRequest .deviceUpdate)
      else .ok (granted catalog r) := by
  rw [Selection.choose, granted, asksByUpdate]
  cases hwants : r.wantsMicrophone || r.wantsCamera with
  | false => simp
  | true => cases hk : r.kind <;> simp

theorem outcome_of_abandoned {frames : Frames} {catalog : Catalog} {origins : List String}
    {r : Request} (h : (of frames catalog origins r).answer = .ok .abandonedNoFrame) :
    (of frames catalog origins r).outcome = .failedDueToShutdown := by
  unfold of at h ⊢
  cases hs : r.isScreenCapture with
  | true =>
    simp only [hs, if_true] at h ⊢
    cases hd : Screen.grant r with
    | ok devices =>
      simp only [hd] at h
      cases h
    | error e => rfl
  | false =>
    simp only [hs, Bool.false_eq_true, if_false] at h ⊢
    split
    · rfl
    · next hframe =>
      simp only [if_neg hframe] at h
      split at h
      · cases h
      · split at h
        · cases h
        · split at h
          · cases h
          · cases h

end Verdict

end CaptureArbiter
