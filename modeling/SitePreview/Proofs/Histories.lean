import Mathlib
import SitePreview.PlainPlatform
import SitePreview.Proofs.LifeCycle

namespace SitePreview

namespace History

/-- The invariant of all histories. -/
structure Sound (h : History) : Prop where
  ordered : h.server.Ordered h.settled h.inForce
  even : h.opened = h.closed + h.server.listening.toNat
  current : h.server.phase.isSome = true → h.server.settings ∈ h.inForce

variable {h : History}

theorem fresh_sound (settings : Settings) : (fresh settings).Sound :=
  ⟨Or.inr ⟨⟨rfl, rfl, rfl, rfl⟩, Or.inl rfl⟩, rfl, by simp [fresh]⟩

theorem Sound.step {settled : Settings} {inForce : List Settings} {step : Step} (sound : h.Sound)
    (hkeeps : Server.Keeps settled inForce h.server step)
    (hcurrent : step.server.phase.isSome = true → h.server.settings ∈ inForce) :
    Sound {
      server := step.server
      opened := h.opened + step.acts.count .opened
      closed := h.closed + step.acts.count .closed
      inForce, settled } := by
  refine ⟨hkeeps.ordered, ?_, ?_⟩
  · have hbefore := sound.even
    have hstep := hkeeps.even
    show h.opened + _ = h.closed + _ + step.server.listening.toNat
    omega
  · intro hphase
    show step.server.settings ∈ inForce
    rw [hkeeps.settings]
    exact hcurrent hphase

theorem Sound.call (sound : h.Sound) (disk : Disk) (op : Operation) :
    (h.after (.call disk op)).Sound := by
  have hkeeps : Server.Keeps h.settled
      (h.inForceAfter (.call disk op) (h.server.beginOperation disk op).server) h.server
      (h.server.beginOperation disk op) := by
    apply Server.beginOperation_keeps sound.ordered
    intro hidle
    unfold inForceAfter
    rw [if_neg]
    rcases hidle with hphase | hphase
    · simp [hphase]
    · simp [Option.isSome_iff_ne_none.mp hphase]
  refine sound.step hkeeps fun hphase => ?_
  unfold inForceAfter
  -- A call that finds the server free begins a list with the settings of now.
  cases hbusy : h.server.phase with
  | none => simp [hphase]
  | some phase => simpa using sound.current (by simp [hbusy])

theorem Sound.resume (sound : h.Sound) (w : Surroundings) : (h.after (.resume w)).Sound := by
  have hkeeps := Server.resume_keeps sound.ordered sound.current w
  refine sound.step hkeeps fun hphase => sound.current ?_
  cases hfree : h.server.phase with
  | none => simp [Server.meet, Server.resume, hfree] at hphase
  | some phase => rfl

theorem Sound.update (sound : h.Sound) (settings : Settings) :
    (h.after (.update settings)).Sound := by
  have hbeside : h.server.Beside (h.server.updateSettings settings) := ⟨_, _, _, _, rfl⟩
  have hkept : h.settled ∈ h.inForce →
      h.settled ∈ h.inForceAfter (.update settings) (h.server.updateSettings settings) := by
    simp only [inForceAfter]
    split
    · exact List.mem_cons_of_mem settings
    · exact id
  refine ⟨sound.ordered.beside hbeside hkept, sound.even, ?_⟩
  intro hphase
  have hbusy : h.server.phase.isSome = true := hphase
  simp [after, Server.meet, Server.updateSettings, inForceAfter, hbusy]

theorem Sound.quiet (sound : h.Sound) {t : Server} (hbeside : h.server.Beside t)
    (hsettings : t.settings = h.server.settings) : ({ h with server := t } : History).Sound := by
  have hordered := sound.ordered.beside hbeside id
  obtain ⟨_, _, _, _, rfl⟩ := hbeside
  refine ⟨hordered, sound.even, ?_⟩
  intro hphase
  show _ ∈ h.inForce
  rw [hsettings]
  exact sound.current hphase

theorem Sound.after (sound : h.Sound) (e : Event) : (h.after e).Sound := by
  have hregistry (registry : Registry) : h.server.Beside { h.server with registry } :=
    ⟨_, _, _, _, rfl⟩
  cases e with
  | call disk op => exact sound.call disk op
  | resume w => exact sound.resume w
  | update settings => exact sound.update settings
  | arrive method target =>
    simp only [History.after, Server.meet, inForceAfter]
    cases harrive : h.server.arrive method target with
    | error fault => exact sound
    | ok found =>
      obtain ⟨t, said, arrival⟩ := found
      obtain ⟨hbeside, hsettings⟩ := Server.arrive_beside harrive
      exact sound.quiet hbeside hsettings
  | finish disk resolved =>
    obtain ⟨hbeside, hsettings⟩ := Server.finishResolved_beside disk resolved h.server
    exact sound.quiet hbeside hsettings
  | connect id => exact sound.quiet (hregistry _) rfl
  | disconnect id => exact sound.quiet (hregistry _) rfl

theorem foldl_after_sound (sound : h.Sound) (events : List Event) :
    (events.foldl History.after h).Sound := by
  induction events generalizing h with
  | nil => exact sound
  | cons e events ih => exact ih (sound.after e)

theorem ofEvents_sound (settings : Settings) (events : List Event) :
    (ofEvents settings events).Sound :=
  foldl_after_sound (fresh_sound settings) events

theorem ofEvents_serving_or_resting (settings : Settings) (events : List Event)
    (hfree : (ofEvents settings events).server.phase = none) :
    let h := ofEvents settings events
    let s := h.server
    (s.listening = true ↔ s.config.isSome = true) ∧
      (s.listening = true ↔ s.status.state = .running) ∧
      (s.listening = false → (s.status.state = .stopped ∨ s.status.state = .error) ∧
        s.config = none ∧ s.status.host = none ∧ s.status.port = none) ∧
      h.opened = h.closed + (if s.listening then 1 else 0) ∧
      ∀ config, s.config = some config →
        s.status.documentRoot = some config.documentRoot ∧
          s.status.baseDir = some config.baseDir ∧
          s.status.port = some (Server.chosenPort h.settled config : Int) ∧
          h.settled ∈ h.inForce := by
  intro h s
  have sound : h.Sound := ofEvents_sound settings events
  have hordered := sound.ordered
  have heven : h.opened = h.closed + s.listening.toNat := sound.even
  rw [Server.Ordered, hfree] at hordered
  rcases hordered with ⟨⟨hlistening, hstate, config, hconfig, hroot, hbase, hport⟩, hin⟩ |
    ⟨⟨hlistening, hconfig, hhost, hport⟩, hstate⟩
  · have hnow : s.listening = true := hlistening
    have hstatus : s.status.state = .running := hstate
    have hheld : s.config = some config := hconfig
    refine ⟨by simp [hnow, hheld], by simp [hnow, hstatus], by simp [hnow],
      by simpa [hnow] using heven, ?_⟩
    intro other hother
    cases hheld.symm.trans hother
    exact ⟨hroot, hbase, hport, hin⟩
  · have hnow : s.listening = false := hlistening
    have hstatus : s.status.state = .stopped ∨ s.status.state = .error := hstate
    have hheld : s.config = none := hconfig
    refine ⟨by simp [hnow, hheld], ?_, fun _ => ⟨hstatus, hheld, hhost, hport⟩,
      by simpa [hnow] using heven, by simp [hheld]⟩
    rcases hstatus with hstatus | hstatus <;> simp [hnow, hstatus]

end History

/-- A workspace with nothing but a small configuration, and a run on it. -/
def smallText : Text := "http { server { } }".toList

def smallSite : Disk :=
  .ofTop (.directory [("nginx.conf".toList, .file (Utf8.encode smallText))])

def smallSurroundings : Surroundings where
  platform := Platform.plain
  disk := smallSite

def smallSettings : Settings where
  workspaceRoot := some ['/']
  overridePort := 8080

def smallRun : List Event :=
  [.call smallSite .start, .resume smallSurroundings, .resume smallSurroundings]

def smallNodes : List Node := [.block "http".toList [] [.block "server".toList [] []]]

def smallPlan : ListenPlan where
  configPath := "/nginx.conf".toList
  baseDir := ['/']
  config := { documentRoot := ['/'], indexFiles := defaultIndexFiles, baseDir := ['/'] }
  host := anyAddress
  port := 8080

theorem parseConfig_smallSite :
    smallSite.parseConfig Platform.plain "/nginx.conf".toList = .ok ⟨smallNodes, 0, 0, 0⟩ := by
  have hcontent : smallSite.fileContent "/nginx.conf".toList = .ok (Utf8.encode smallText) := by
    cbv
  have hdecoded : Platform.plain.decode (Utf8.encode smallText) = .ok smallText := by
    decide +kernel
  have hparsed : parseText Platform.plain.blockRoom smallText = .ok ⟨smallNodes, 0, 0, 0⟩ := by cbv
  have hread : smallSite.readConfig Platform.plain "/nginx.conf".toList = .ok smallText := by
    rw [Disk.readConfig, hcontent]
    exact congrArg (Except.mapError SourceError.undecodable) hdecoded
  rw [Disk.parseConfig, hread]
  exact congrArg (Except.mapError SourceError.unparsed) hparsed

theorem afterReading_smallSite {s : Server}
    (hbase : baseDirFor smallSite.cwd s.settings "/nginx.conf".toList = ['/']) :
    (s.afterReading smallSurroundings "/nginx.conf".toList).server =
      { s with phase := some (.listening { smallPlan with
          host := s.settings.host
          port := Server.chosenPort s.settings smallPlan.config }) } := by
  have hparsed : smallSurroundings.disk.parseConfig smallSurroundings.platform "/nginx.conf".toList =
      .ok ⟨smallNodes, 0, 0, 0⟩ := parseConfig_smallSite
  have hroot : baseDirFor smallSurroundings.disk.cwd s.settings "/nginx.conf".toList = ['/'] := hbase
  have hbuilt : ServerConfig.ofNodes smallSurroundings.platform.patterns smallSurroundings.disk.cwd ['/']
      smallNodes = .ok (some smallPlan.config) := by cbv
  unfold Server.afterReading
  simp only [hparsed, hroot, hbuilt]
  rfl

theorem start_smallSite : ((Server.beginOperation smallSite .start
      { settings := smallSettings }).server.resume smallSurroundings).server =
    { settings := smallSettings
      kept := { state := .starting }
      phase := some (.listening smallPlan) } := by
  have hcalled : (Server.beginOperation smallSite .start { settings := smallSettings }).server =
      { settings := smallSettings
        kept := { state := .starting }
        phase := some (.reading "/nginx.conf".toList) } := by cbv
  rw [hcalled]
  exact afterReading_smallSite (by cbv)

theorem ofEvents_smallRun : (History.ofEvents smallSettings smallRun).server =
    (Server.run smallPlan { settings := smallSettings }).server := by
  change (Server.resume _ (Server.resume _ (Server.beginOperation smallSite .start
    { settings := smallSettings }).server).server).server = _
  rw [start_smallSite]
  rfl

namespace History

theorem ofEvents_serving_smallRun :
    (ofEvents smallSettings smallRun).server.phase = none ∧
      (ofEvents smallSettings smallRun).server.status.state = .running ∧
      (ofEvents smallSettings smallRun).opened = (ofEvents smallSettings smallRun).closed + 1 := by
  have hfree : (ofEvents smallSettings smallRun).server.phase = none := by
    rw [ofEvents_smallRun]
    rfl
  have hlistening : (ofEvents smallSettings smallRun).server.listening = true := by
    rw [ofEvents_smallRun]
    rfl
  obtain ⟨_, hstate, _, hcount, _⟩ := ofEvents_serving_or_resting smallSettings smallRun hfree
  refine ⟨hfree, hstate.mp hlistening, ?_⟩
  simpa [hlistening] using hcount

end History

end SitePreview
