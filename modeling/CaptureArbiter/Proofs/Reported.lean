import CaptureArbiter.Proofs.Decision
import CaptureArbiter.Proofs.Faults

/-!
# Reports of the command line

A command line that gets as far as its request hears it with an authority that asks no application.
So the request has been answered by one delivery when the handling ends, and what is printed is that
delivery: a line for each device, and the outcome, which decides the exit status.
-/

namespace CaptureArbiter

open Act

/-- The line of a granted device. -/
def Device.line (d : Device) : String := "\t".intercalate [d.kind.name, d.id, d.name]

/-- The lines of a delivery: the devices in order, then the outcome. -/
def Delivery.lines (d : Delivery) : List String := d.devices.map Device.line ++ [d.outcome.name]

/-- A report tells of a delivery: it shows the lines of the delivery and never says that the request
is pending, and the run ends with status 0 for the outcome `OK` and with 1 for any other. -/
structure CommandLine.Report.Tells (report : CommandLine.Report) (d : Delivery) : Prop where
  output : report.output = String.join (d.lines.map (· ++ "\n"))
  decided : report.output ≠ "PENDING\n"
  ending : report.ending = .exit (if d.outcome = .ok then 0 else 1)

namespace CommandLine

variable {files : Path.Folder Settings.Content} {backends : Backends} {words : List String}
  {a : Arguments} {o : Office}

/-- A command line gets as far as its request: it is understood as arguments, the settings pass the
checks, and the service is built. -/
structure Reaches (files : Path.Folder Settings.Content) (backends : Backends) (words : List String)
    (a : Arguments) (o : Office) : Prop where
  parsed : parse words = .ok a
  furnished : ∃ path s, settings files a.configDir = .ok (path, s) ∧
    ((s.furnish none ((lobby a).run {}).2).run backends).1 = .ok o

theorem deliveries_lobby (a : Arguments) : ((lobby a).run {}).2.desk.deliveries = [] := by
  unfold lobby
  split
  · rfl
  · rfl

theorem frames_lobby (h : a.noFrame = true) : ((lobby a).run {}).2.frames = {} := by
  unfold lobby
  rw [if_pos h]
  rfl

/-- What is known of the office when the request comes. -/
structure Prepared (a : Arguments) (o : Office) : Prop where
  deliveries : o.desk.deliveries = []
  frames : a.noFrame = true → o.frames = {}
  consent : ∃ origins, o.consent.ConfiguredWith origins
  idle : o.consent.Idle

theorem Reaches.prepared (hb : backends.Own) (h : Reaches files backends words a o) :
    Prepared a o := by
  obtain ⟨path, s, hs, hfurnished⟩ := h.furnished
  obtain ⟨catalog, consent, b₁, b₂, hcatalog, hconsent, rfl⟩ :=
    Settings.exists_of_furnish_ok hfurnished
  obtain ⟨document, hdocument⟩ := settings_eq_ok hs
  obtain ⟨hread, hcheck⟩ := Settings.ofChecked_eq_ok hdocument
  have hsound := Settings.sound_of_check hcheck
  obtain ⟨catalogKey, hcatalogKey⟩ := hsound.catalogKey
  obtain ⟨key, hkey, _⟩ := hsound.consentKey
  obtain ⟨origins, horigins⟩ := hsound.readOrigins
  obtain ⟨c, hblock, _⟩ := Catalog.exists_ofBlock (Settings.readFrom_ofDocument hread) hsound
  obtain ⟨_, hown⟩ := Backends.failsOnly_makeCatalog hblock hcatalogKey hb
  rw [hcatalog] at hown
  obtain ⟨hconfigured, hidle⟩ := Backends.configured_makeConsent horigins hkey hown
    (congrArg Prod.fst hconsent)
  exact
    { deliveries := deliveries_lobby a
      frames := frames_lobby
      consent := hconfigured
      idle := hidle }

theorem Reaches.run_eq (h : Reaches files backends words a o) :
    ∃ level earlier, run files backends words = handleRequest a level earlier o := by
  obtain ⟨path, s, hs, hfurnished⟩ := h.furnished
  obtain ⟨document, hdocument⟩ := settings_eq_ok hs
  have hsound := Settings.sound_of_check (Settings.ofChecked_eq_ok hdocument).2
  obtain ⟨level, hserve⟩ := runArguments_of_settings backends hs hsound
  obtain ⟨earlier, hhandle⟩ := serve_of_furnished hfurnished
  exact ⟨level, earlier, (run_parsed h.parsed).trans (hserve.trans hhandle)⟩

theorem deviceLine_eq (d : Device) : deviceLine d = d.line ++ "\n" := by
  simp [deviceLine, Device.line, String.append_assoc]

theorem deliveryText_some (d : Delivery) :
    deliveryText (some d) = String.join (d.lines.map (· ++ "\n")) := by
  have hdevices : d.devices.map deviceLine = (d.devices.map Device.line).map (· ++ "\n") := by
    rw [List.map_map]
    exact List.map_congr_left fun x _ => deviceLine_eq x
  simp [deliveryText, Delivery.lines, hdevices]

theorem deliveryText_ne_pending (d : Delivery) : deliveryText (some d) ≠ "PENDING\n" := by
  intro h
  rw [deliveryText_some, Delivery.lines] at h
  cases hdevices : d.devices with
  | nil =>
    rw [hdevices] at h
    cases houtcome : d.outcome <;> simp [houtcome, Outcome.name] at h
  | cons x xs =>
    -- the record of a device has tabs in it
    have htab : '\t' ∈ "PENDING\n".toList := by
      rw [← h, hdevices]
      simp [Device.line]
    exact absurd htab (by decide)

theorem tells_handleRequest (level : Level) (earlier : List Note) {phase : Phase} {d : Delivery}
    (hphase : ((Office.handle a.request .accept).run o).1 = .ok phase)
    (hd : ((Office.handle a.request .accept).run o).2.desk.deliveries = [d]) :
    (handleRequest a level earlier o).Tells d := by
  cases hy : (Office.handle a.request .accept).run o with
  | mk result o' =>
    rw [hy] at hphase hd
    cases hphase
    have hlast : o'.desk.deliveries.getLast? = some d := congrArg List.getLast? hd
    have houtput : (handleRequest a level earlier o).output = deliveryText (some d) := by
      simp only [handleRequest, hy, hlast]
    have hending : (handleRequest a level earlier o).ending = .exit (deliveryStatus (some d)) := by
      simp only [handleRequest, hy, hlast]
    exact
      { output := houtput.trans (deliveryText_some d)
        decided := houtput ▸ deliveryText_ne_pending d
        ending := hending }

end CommandLine

theorem Verdict.of_gone {frames : Frames} {r : Request} (hs : r.isScreenCapture = false)
    (hgone : frames.find? r.processId r.frameId = none) (catalog : Catalog)
    (origins : List String) :
    Verdict.of frames catalog origins r = Verdict.shutdown (.ok .abandonedNoFrame) := by
  rw [Verdict.of, hs, hgone]
  rfl

/-- When a command line gets as far as its request, one delivery has been made by the end of the
handling, to the callback of the request. If the handling does not fail, the report tells of that
delivery. Without its frame, a request that is not for the screen is shut down without devices. -/
theorem run_reports_delivery (files : Path.Folder Settings.Content) (backends : Backends)
    (words : List String) (a : CommandLine.Arguments) (o : Office) (hb : backends.Own)
    (hreaches : CommandLine.Reaches files backends words a o) :
    ∃ d : Delivery, ((Office.handle a.request .accept).run o).2.desk.deliveries = [d] ∧
      d.callback = o.desk.callbacks.length ∧
      (∀ phase, ((Office.handle a.request .accept).run o).1 = .ok phase →
        (CommandLine.run files backends words).Tells d) ∧
      (a.noFrame = true → a.request.isScreenCapture = false →
        ((Office.handle a.request .accept).run o).1 = .ok .abandonedNoFrame ∧
          d.outcome = .failedDueToShutdown ∧ d.devices = []) := by
  have hprepared := hreaches.prepared hb
  obtain ⟨origins, hconsent⟩ := hprepared.consent
  have hconfigured : o.Configured origins o.catalog.defaultAudioId o.catalog.defaultVideoId :=
    ⟨hconsent, rfl, rfl⟩
  obtain ⟨hanswer, hdeliveries⟩ := hconfigured.handle hprepared.idle a.request
  rw [hprepared.deliveries, List.nil_append] at hdeliveries
  refine ⟨_, hdeliveries, rfl, ?_, ?_⟩
  · intro phase hphase
    obtain ⟨level, earlier, hrun⟩ := hreaches.run_eq
    rw [hrun]
    exact CommandLine.tells_handleRequest level earlier hphase hdeliveries
  · intro hno hscreen
    have hgone : o.frames.find? a.request.processId a.request.frameId = none := by
      rw [hprepared.frames hno]
      rfl
    rw [Verdict.of_gone hscreen hgone] at hanswer ⊢
    exact ⟨hanswer, rfl, rfl⟩

/-- With an authority that takes a handler but has none, a request whose frame is left out is still
answered, and reported as shut down. -/
theorem run_reports_delivery_shutdown :
    let document : Value := .map [(.text "consent", .map [(.text "type", .text "handler")])]
    let files : Path.Folder Settings.Content :=
      { files := [(["config", "main_a.yaml"], .document document)] }
    let words := ["--audio", "DEVICE_AUDIO_CAPTURE", "--no-frame"]
    let a : CommandLine.Arguments := { audio := .deviceAudio, noFrame := true }
    ∃ o, CommandLine.Reaches files {} words a o ∧
      ((Office.handle a.request .accept).run o).1 = .ok .abandonedNoFrame ∧
      (CommandLine.run files {} words).output = "FAILED_DUE_TO_SHUTDOWN\n" ∧
      (CommandLine.run files {} words).ending = .exit 1 := by
  intro document files words a
  let s : Settings := { consent := { backend := .text "handler" } }
  have hparse : CommandLine.parse words = .ok a := rfl
  have hpath : Settings.findMain files "config" = .ok "config/main_a.yaml" :=
    eq_ok_of_toOption (by decide +kernel)
  have hread : Settings.readMain files "config/main_a.yaml" = .ok document := rfl
  have hchecked : Settings.ofChecked "config/main_a.yaml" document = .ok s := rfl
  have hsettings := CommandLine.settings_of_read hpath hread
  rw [hchecked] at hsettings
  have hbuilt : ((s.furnish none ((CommandLine.lobby a).run {}).2).run {}).1.toOption.isSome =
      true := by
    decide +kernel
  obtain ⟨o, ho⟩ := Option.isSome_iff_exists.mp hbuilt
  have hreaches : CommandLine.Reaches files {} words a o :=
    ⟨hparse, "config/main_a.yaml", s, hsettings, eq_ok_of_toOption ho⟩
  obtain ⟨d, _, _, hreport, hgone⟩ :=
    run_reports_delivery files {} words a o Backends.own_empty hreaches
  obtain ⟨hphase, houtcome, hdevices⟩ := hgone rfl rfl
  have htells := hreport .abandonedNoFrame hphase
  refine ⟨o, hreaches, hphase, ?_, ?_⟩
  · simp [htells.output, Delivery.lines, houtcome, hdevices, Outcome.name]
  · simp [htells.ending, houtcome]

end CaptureArbiter
