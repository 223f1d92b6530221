import CaptureArbiter.Proofs.DigitRuns
import CaptureArbiter.Proofs.Surroundings

/-!
# Screen requests that name overlong ids

A number of more than 4300 digits is the only thing in an id that reading it trips over. A screen
request that names such an id fails in the run of its arbiter, with its callback still held; every
other screen request is resolved with what it is granted.
-/

namespace CaptureArbiter

open Act

namespace DesktopId

theorem parse_succeeds_iff (s : String) : (∃ d, parse s = .ok d) ↔ ¬IsOverlong s := by
  constructor
  · rintro ⟨d, hd⟩ hlong
    obtain ⟨n, -, hn⟩ := parse_of_isOverlong hlong
    rw [hd] at hn
    cases hn
  · exact parse_of_not_isOverlong

theorem parse_eq_none_iff (s : String) : parse s = .ok .none ↔ ∀ x : Spelling, x.text ≠ s := by
  constructor
  · rintro hnone x rfl
    by_cases hx : x.IsOverlong
    · obtain ⟨n, -, -, hn⟩ := Spelling.parse_text_of_isOverlong hx
      rw [hnone] at hn
      cases hn
    · have hsource := Spelling.parse_text hx
      have hsome := x.isNone_source
      rw [hnone, Except.ok.injEq] at hsource
      rw [← hsource] at hsome
      cases hsome
  · exact parse_of_not_spelling

/-- A number that is written with so many ones. -/
def Numeral.ones (n : Nat) (h : 0 < n) : Numeral where
  minus := false
  digits := List.replicate n '1'
  digits_ne_nil := fun hnil => by
    rw [List.replicate_eq_nil_iff] at hnil
    omega
  isDigit := fun c hc => by
    rw [List.eq_of_mem_replicate hc]
    rfl

/-- The screen with that number. -/
def screenOfOnes (n : Nat) : String :=
  String.ofList ("screen".toList ++ ':' :: List.replicate n '1')

theorem text_ones {n : Nat} (h : 0 < n) :
    Spelling.text ⟨.screen, Numeral.ones n h, Option.none⟩ = screenOfOnes n :=
  Spelling.text_of_no_window .screen (Numeral.ones n h)

theorem isOverlong_screenOfOnes {n : Nat} (h : IntegerText.digitLimit < n) :
    IsOverlong (screenOfOnes n) := by
  have hpos : 0 < n := Nat.zero_lt_of_lt h
  have hlong : (Numeral.ones n hpos).IsOverlong := by
    rw [Numeral.IsOverlong, Numeral.ones, List.length_replicate]
    exact h
  exact ⟨_, text_ones hpos, Numeral.ones n hpos, List.mem_cons_self .., hlong⟩

theorem isOverlong_firstOverlong : IsOverlong (screenOfOnes 4301) :=
  isOverlong_screenOfOnes (Nat.lt_succ_self IntegerText.digitLimit)

end DesktopId

namespace Session

variable {r : Request}

theorem run_arbitration (o : Office) (r : Request) (label : String) (sink : Sink) :
    (perform .run).run (arbitration o r label sink) =
      let y := Hearing.run.run (firstHearing o r label sink)
      (y.1.map Reply.phase, ⟨y.2.office, some y.2.arbiter⟩) := by
  have hrun := run_bind_pure (onHearing "run" Hearing.run) Reply.phase (arbitration o r label sink)
  rwa [run_onHearing "run" Hearing.run rfl] at hrun

theorem phase_of_run {o : Office} {label : String} {sink : Sink} {phase : Phase}
    (h : ((perform .run).run (arbitration o r label sink)).1 = .ok (.phase phase)) :
    ((perform .run).run (arbitration o r label sink)).2.arbiter.map (·.phase) = some phase := by
  rw [run_arbitration] at h ⊢
  simp only at h ⊢
  rw [Hearing.run_run] at h ⊢
  cases hb : (firstHearing o r label sink).branch.run (firstHearing o r label sink) with
  | mk x k =>
    rw [hb] at h
    cases x with
    | ok _ =>
      cases h
      rfl
    | error e => cases h

theorem run_arbitration_granted (o : Office) (label : String) (hs : r.isScreenCapture = true)
    {devices : List Device} (hd : Screen.grant r = .ok devices) :
    let y := (perform .run).run (arbitration o r label .accept)
    y.1 = .ok (.phase .resolved) ∧ y.2.arbiter.map (·.phase) = some .resolved ∧
      y.2.office.desk.deliveries = [⟨0, none, devices, .ok⟩] := by
  intro y
  obtain ⟨hsent, haccept, _⟩ := perform_granted (.inl rfl) hs o label .accept hd
  have hanswer : y.1 = .ok (.phase .resolved) := haccept rfl
  exact ⟨hanswer, phase_of_run hanswer, hsent⟩

/-- A request that is granted nothing leaves the arbiter with its callback, and nobody is told. -/
theorem run_arbitration_refused (o : Office) (label : String) (sink : Sink)
    (hs : r.isScreenCapture = true) {e : Failure} (hd : Screen.grant r = .error e) :
    let y := (perform .run).run (arbitration o r label sink)
    y.1 = .error e ∧ y.2.arbiter = some ⟨r, .delegatedToScreen, some 0⟩ ∧
      y.2.office.desk.deliveries = [] := by
  intro y
  let h := firstHearing o r label sink
  have hrun : h.branch.run h = (.error e, h.screened) := by
    rw [Hearing.branch_screen rfl hs]
    exact Hearing.run_runScreen_error hd
  have hanswer : (Hearing.run.run h).1 = .error e := Hearing.run_answer_error (by rw [hrun])
  have hy : y = _ := run_arbitration o r label sink
  rw [hy]
  simp only
  rw [hanswer, Hearing.run_state, hrun]
  exact ⟨rfl, rfl, rfl⟩

end Session

/-- The run of an arbiter for a screen request, over a sink that takes what it is handed: it fails
just for a request that names an id with an overlong number. Then nothing is delivered, and the
arbiter is left in the screen branch with its callback. Otherwise the request is resolved, and its
devices are delivered as a success. Reading an id fails for the overlong ones only, and gives no
source just for a text that spells none. -/
theorem screen_run_fails_just_for_overlong_id (o : Office) (r : Request) (label : String)
    (hs : r.isScreenCapture = true) (s : String) :
    let y := (Session.perform .run).run (Session.arbitration o r label .accept)
    (r.NamesOverlong → ∃ digits, 4300 < digits ∧ y.1 = .error (.integerTextTooLong digits) ∧
        y.2.arbiter = some ⟨r, .delegatedToScreen, some 0⟩ ∧ y.2.office.desk.deliveries = []) ∧
      (¬r.NamesOverlong → ∃ devices, devices ≠ [] ∧ y.1 = .ok (.phase .resolved) ∧
        y.2.arbiter.map (·.phase) = some .resolved ∧
        y.2.office.desk.deliveries = [⟨0, none, devices, .ok⟩]) ∧
      ((∃ d, DesktopId.parse s = .ok d) ↔ ¬DesktopId.IsOverlong s) ∧
      (DesktopId.parse s = .ok .none ↔ ∀ x : DesktopId.Spelling, x.text ≠ s) := by
  intro y
  refine ⟨fun hlong => ?_, fun hshort => ?_, DesktopId.parse_succeeds_iff s,
    DesktopId.parse_eq_none_iff s⟩
  · obtain ⟨digits, hdigits, hd⟩ := Screen.grant_of_namesOverlong hlong
    exact ⟨digits, hdigits, Session.run_arbitration_refused o label .accept hs hd⟩
  · obtain ⟨devices, hd⟩ := Screen.grant_of_not_namesOverlong hshort
    exact ⟨devices, Screen.grant_ne_nil hs hd, Session.run_arbitration_granted o label hs hd⟩

/-- An id that is no spelling at all does no harm; one digit too many does. -/
theorem screen_run_fails_for_ones :
    let desktop : Request := { video := .desktopVideo, videoDeviceId := "desktop 1" }
    let ones : Request := { video := .desktopVideo, videoDeviceId := DesktopId.screenOfOnes 4301 }
    let y := (Session.perform .run).run (Session.arbitration {} desktop "" .accept)
    let z := (Session.perform .run).run (Session.arbitration {} ones "" .accept)
    ¬desktop.NamesOverlong ∧ y.1 = .ok (.phase .resolved) ∧ ones.NamesOverlong ∧
      z.2.office.desk.deliveries = [] := by
  intro desktop ones
  obtain ⟨_, hresolves, hread, _⟩ :=
    screen_run_fails_just_for_overlong_id {} desktop "" rfl "desktop 1"
  obtain ⟨hrefuses, _, _, _⟩ := screen_run_fails_just_for_overlong_id {} ones "" rfl ""
  have hdesktop : ¬desktop.NamesOverlong := fun ⟨_, hlong⟩ => hread.mp ⟨.none, rfl⟩ hlong
  have hones : ones.NamesOverlong := ⟨rfl, DesktopId.isOverlong_firstOverlong⟩
  obtain ⟨_, _, hresolved, _⟩ := hresolves hdesktop
  obtain ⟨_, _, _, _, hsent⟩ := hrefuses hones
  exact ⟨hdesktop, hresolved, hones, hsent⟩

theorem Session.run_of_overlong_id {id : String} (hlong : DesktopId.IsOverlong id) :
    let r : Request := { video := .desktopVideo, videoDeviceId := id }
    let y := (perform .run).run (arbitration {} r "" .accept)
    r.isScreenCapture = true ∧ (∀ d, DesktopId.parse r.videoDeviceId ≠ .ok d) ∧
      (∀ reply, y.1 ≠ .ok reply) ∧ y.2.arbiter.map (·.phase) ≠ some .resolved ∧
      y.2.office.desk.deliveries = [] := by
  intro r y
  have hnames : r.NamesOverlong := ⟨rfl, hlong⟩
  obtain ⟨n, -, hn⟩ := DesktopId.parse_of_isOverlong hlong
  obtain ⟨digits, -, hd⟩ := Screen.grant_of_namesOverlong hnames
  obtain ⟨hanswer, hleft, hsent⟩ :=
    run_arbitration_refused (r := r) {} "" .accept rfl hd
  refine ⟨rfl, fun d hparse => ?_, fun reply hreply => ?_, ?_, hsent⟩
  · rw [hn] at hparse
    cases hparse
  · have hfails : y.1 = .error (.integerTextTooLong digits) := hanswer
    rw [hreply] at hfails
    cases hfails
  · have hphase : y.2.arbiter = _ := hleft
    rw [hphase]
    nofun

/-- The id of a screen with 4301 ones is not read, as no source either, and the request that names
it is not resolved. -/
theorem screen_run_not_resolved_for_ones :
    let r : Request := { video := .desktopVideo, videoDeviceId := DesktopId.screenOfOnes 4301 }
    let y := (Session.perform .run).run (Session.arbitration {} r "" .accept)
    r.isScreenCapture = true ∧ (∀ d, DesktopId.parse r.videoDeviceId ≠ .ok d) ∧
      (∀ reply, y.1 ≠ .ok reply) ∧ y.2.arbiter.map (·.phase) ≠ some .resolved ∧
      y.2.office.desk.deliveries = [] :=
  Session.run_of_overlong_id DesktopId.isOverlong_firstOverlong

end CaptureArbiter
