import SitePreview.Proofs.Histories
import SitePreview.Proofs.OperationSteps

namespace SitePreview

namespace History

variable {settings : Settings} {events before later : List Event} {e : Event}

theorem ofEvents_concat : ofEvents settings (events ++ [e]) = (ofEvents settings events).after e := by
  simp only [ofEvents, List.foldl_append, List.foldl_cons, List.foldl_nil]

theorem server_concat : (ofEvents settings (events ++ [e])).server =
    ((ofEvents settings events).server.meet e).server := by
  rw [ofEvents_concat]
  rfl

/-- While some events follow others, something is true of the server all the time. -/
def Throughout (settings : Settings) (P : Server → Prop) (before later : List Event) : Prop :=
  ∀ part, part <+: later → P (ofEvents settings (before ++ part)).server

theorem throughout_nil {P : Server → Prop} (h : P (ofEvents settings before).server) :
    Throughout settings P before [] := by
  intro part hpart
  rw [List.prefix_nil.mp hpart, List.append_nil]
  exact h

theorem Throughout.concat {P : Server → Prop} (h : Throughout settings P before later)
    (hlast : P (ofEvents settings (before ++ (later ++ [e]))).server) :
    Throughout settings P before (later ++ [e]) := by
  intro part hpart
  rcases List.prefix_concat_iff.mp hpart with rfl | hpart
  · exact hlast
  · exact h part hpart

/-- A look for the configuration has found a path, and the operation has waited since then. -/
def Sought (settings : Settings) (events : List Event) (path : Text) : Prop :=
  ∃ before look wait disk found, events = before ++ [look] ++ wait ∧
    lookUpConfig disk (ofEvents settings before).server.settings = .ok found ∧
    found.path? = some path ∧
    (ofEvents settings (before ++ [look])).server.settings =
      (ofEvents settings before).server.settings ∧
    Throughout settings (·.phase = some (.reading path)) (before ++ [look]) wait

end History

/-- The status of a server that runs a plan. -/
structure Server.Runs (s : Server) (plan : ListenPlan) : Prop where
  listening : s.listening = true
  config : s.config = some plan.config
  configPath : s.kept.configPath = some plan.configPath
  baseDir : s.kept.baseDir = some plan.baseDir
  host : s.kept.host = some plan.host
  port : s.kept.port = some (plan.port : Int)

/-- A server waits for the listener of a plan, or runs the plan. -/
def Server.Follows (s : Server) (plan : ListenPlan) : Prop :=
  s.phase = some (.listening plan) ∨ s.Runs plan

theorem Server.Follows.beside {s t : Server} {plan : ListenPlan} (h : s.Follows plan)
    (hbeside : s.Beside t) : t.Follows plan := by
  obtain ⟨_, _, _, _, rfl⟩ := hbeside
  rcases h with hphase | hruns
  · exact .inl hphase
  · exact .inr ⟨hruns.listening, hruns.config, hruns.configPath, hruns.baseDir, hruns.host, hruns.port⟩

namespace History

variable {settings : Settings} {events : List Event}

/-- A plan was made for the path that had been found, and has been followed since then. -/
def Planned (settings : Settings) (events : List Event) (plan : ListenPlan) : Prop :=
  ∃ before choice later cwd, events = before ++ [choice] ++ later ∧
    Sought settings before plan.configPath ∧
    plan = (ofEvents settings before).server.planFor cwd plan.configPath plan.config ∧
    Throughout settings (·.Follows plan) (before ++ [choice]) later

theorem Planned.concat {plan : ListenPlan} (h : Planned settings events plan) {e : Event}
    (hlast : (ofEvents settings (events ++ [e])).server.Follows plan) :
    Planned settings (events ++ [e]) plan := by
  obtain ⟨before, choice, later, cwd, rfl, hsought, hplan, hfollows⟩ := h
  rw [List.append_assoc] at hlast
  exact ⟨before, choice, later ++ [e], cwd, List.append_assoc _ _ _, hsought, hplan,
    hfollows.concat hlast⟩

/-- Where the operation under way, or the run, has its path and its plan from. -/
structure Traced (settings : Settings) (events : List Event) : Prop where
  reading : ∀ path, (ofEvents settings events).server.phase = some (.reading path) →
    Sought settings events path
  listening : ∀ plan, (ofEvents settings events).server.phase = some (.listening plan) →
    Planned settings events plan
  running : (ofEvents settings events).server.listening = true →
    ∃ plan, Planned settings events plan ∧ (ofEvents settings events).server.Runs plan

theorem fresh_traced (settings : Settings) : Traced settings [] :=
  ⟨nofun, nofun, nofun⟩

theorem Traced.beside (h : Traced settings events) {e : Event}
    (hbeside : (ofEvents settings events).server.Beside (ofEvents settings (events ++ [e])).server) :
    Traced settings (events ++ [e]) := by
  have hphase : (ofEvents settings (events ++ [e])).server.phase =
      (ofEvents settings events).server.phase := by
    obtain ⟨_, _, _, _, heq⟩ := hbeside
    rw [heq]
  have hlistening : (ofEvents settings (events ++ [e])).server.listening =
      (ofEvents settings events).server.listening := by
    obtain ⟨_, _, _, _, heq⟩ := hbeside
    rw [heq]
  refine ⟨?_, ?_, ?_⟩
  · intro path hreading
    obtain ⟨before, look, wait, disk, found, rfl, hfound, hpath, hsettings, hwaits⟩ :=
      h.reading path (hphase ▸ hreading)
    rw [List.append_assoc] at hreading
    exact ⟨before, look, wait ++ [e], disk, found, List.append_assoc _ _ _, hfound, hpath, hsettings,
      hwaits.concat hreading⟩
  · intro plan hplanned
    exact (h.listening plan (hphase ▸ hplanned)).concat (.inl hplanned)
  · intro hruns
    obtain ⟨plan, hplanned, hplan⟩ := h.running (hlistening ▸ hruns)
    have hnext := Server.Follows.beside (.inr hplan) hbeside
    refine ⟨plan, hplanned.concat hnext, hnext.resolve_left ?_⟩
    intro hwaits
    have hsilent := (ofEvents_sound settings (events ++ [e])).ordered.silent (by simp [hwaits])
    simp [hsilent] at hruns

theorem Traced.advances (h : Traced settings events) {e : Event} {step : Step}
    (hstep : (ofEvents settings events).server.Advances step)
    (hserver : (ofEvents settings (events ++ [e])).server = step.server) :
    Traced settings (events ++ [e]) := by
  have hsettings := hserver ▸ hstep.settings
  cases hstep with
  | refused => exact h.beside (hserver ▸ .refl _)
  | closing | stopped | failed =>
    refine ⟨?_, ?_, ?_⟩ <;> simp_all
  | naming hlistening =>
    refine ⟨?_, ?_, ?_⟩ <;> simp [hserver, hlistening]
  | reading hlistening _ hfound hpath =>
    refine ⟨?_, ?_, ?_⟩
    · intro path hreading
      have hwaits := throughout_nil (P := (·.phase = some (.reading path))) hreading
      rw [hserver] at hreading
      cases hreading
      exact ⟨events, e, [], _, _, (List.append_nil _).symm, hfound, hpath, hsettings, hwaits⟩
    · simp [hserver]
    · simp [hserver, hlistening]
  | @listening cwd path config said hlistening hphase =>
    refine ⟨?_, ?_, ?_⟩
    · simp [hserver]
    · intro plan hplanned
      have hfollows := throughout_nil (P := (·.Follows plan)) (.inl hplanned)
      rw [hserver] at hplanned
      cases hplanned
      exact ⟨events, e, [], cwd, (List.append_nil _).symm, h.reading path hphase, rfl, hfollows⟩
    · simp [hserver, hlistening]
  | @serving plan hlistening hphase =>
    have hruns : (ofEvents settings (events ++ [e])).server.Runs plan := by
      rw [hserver]
      exact ⟨rfl, rfl, rfl, rfl, rfl, rfl⟩
    refine ⟨?_, ?_, ?_⟩
    · simp [hserver, Server.run]
    · simp [hserver, Server.run]
    · intro _
      exact ⟨plan, (h.listening plan hphase).concat (.inr hruns), hruns⟩

theorem concat_cases (settings : Settings) (events : List Event) (e : Event) :
    ((ofEvents settings events).server.Beside (ofEvents settings (events ++ [e])).server ∧
        ((∀ other, e ≠ .update other) → (ofEvents settings (events ++ [e])).server.settings =
          (ofEvents settings events).server.settings)) ∨
      ∃ step, (ofEvents settings events).server.Advances step ∧
        (ofEvents settings (events ++ [e])).server = step.server := by
  rw [server_concat]
  rcases Server.meet_cases (ofEvents_sound settings events).ordered.silent e with hbeside | hstep
  · exact .inl hbeside
  · exact .inr ⟨_, hstep, rfl⟩

theorem ofEvents_traced (settings : Settings) (events : List Event) : Traced settings events := by
  induction events using List.reverseRecOn with
  | nil => exact fresh_traced settings
  | append_singleton events e ih =>
    rcases concat_cases settings events e with ⟨hbeside, _⟩ | ⟨step, hstep, hserver⟩
    · exact ih.beside hbeside
    · exact ih.advances hstep hserver

theorem settings_append {later : List Event} (before : List Event)
    (h : ∀ other, .update other ∉ later) :
    (ofEvents settings (before ++ later)).server.settings =
      (ofEvents settings before).server.settings := by
  induction later generalizing before with
  | nil => rw [List.append_nil]
  | cons e later ih =>
    have hlater : ∀ other, .update other ∉ later :=
      fun other hmem => h other (List.mem_cons_of_mem e hmem)
    have he : ∀ other, e ≠ .update other := fun other heq => h other (heq ▸ List.mem_cons_self)
    have hfirst : (ofEvents settings (before ++ [e])).server.settings =
        (ofEvents settings before).server.settings := by
      rcases concat_cases settings before e with ⟨_, hsettings⟩ | ⟨step, hstep, hserver⟩
      · exact hsettings he
      · rw [hserver, hstep.settings]
    calc (ofEvents settings (before ++ e :: later)).server.settings
        = (ofEvents settings ((before ++ [e]) ++ later)).server.settings := by rw [List.append_cons]
      _ = (ofEvents settings (before ++ [e])).server.settings := ih _ hlater
      _ = (ofEvents settings before).server.settings := hfirst

/-- The path of a run was found with the settings at the look for it, and its base directory, host and
port were chosen with those at the end of the wait that followed. They are the same settings if none
came in during that wait. -/
theorem ofEvents_start_settings (settings : Settings) (events : List Event)
    (hlistening : (ofEvents settings events).server.listening = true) :
    let s := (ofEvents settings events).server
    ∃ before look wait choice later plan disk found cwd,
      let sought := (ofEvents settings before).server.settings
      let chosen := (ofEvents settings (before ++ [look] ++ wait)).server.settings
      events = before ++ [look] ++ wait ++ [choice] ++ later ∧
        Throughout settings (·.phase = some (.reading plan.configPath)) (before ++ [look]) wait ∧
        Throughout settings (·.Follows plan) (before ++ [look] ++ wait ++ [choice]) later ∧
        lookUpConfig disk sought = .ok found ∧ found.path? = s.status.configPath ∧
        s.config = some plan.config ∧
        s.status.baseDir = some (baseDirFor cwd chosen plan.configPath) ∧
        s.status.host = some chosen.host ∧
        s.status.port = some (Server.chosenPort chosen plan.config : Int) ∧
        ((∀ other, .update other ∉ wait) → chosen = sought) := by
  intro s
  obtain ⟨plan, hplanned, hruns⟩ := (ofEvents_traced settings events).running hlistening
  obtain ⟨start, choice, later, cwd, hevents, hsought, hplan, hfollows⟩ := hplanned
  obtain ⟨before, look, wait, disk, found, rfl, hfound, hpath, hlook, hwaits⟩ := hsought
  have hbase := congrArg ListenPlan.baseDir hplan
  have hhost := congrArg ListenPlan.host hplan
  have hport := congrArg (fun plan : ListenPlan => (plan.port : Int)) hplan
  refine ⟨before, look, wait, choice, later, plan, disk, found, cwd, hevents, hwaits, hfollows,
    hfound, hpath.trans hruns.configPath.symm, hruns.config, ?_, ?_, ?_, ?_⟩
  · exact hruns.baseDir.trans (congrArg some hbase)
  · exact hruns.host.trans (congrArg some hhost)
  · exact hruns.port.trans (congrArg some hport)
  · intro hquiet
    exact (settings_append _ hquiet).trans hlook

theorem ofEvents_start_settings_smallRun :
    (ofEvents smallSettings smallRun).server.listening = true ∧
      (ofEvents smallSettings smallRun).server.status.host = some smallSettings.host := by
  have hlistening : (ofEvents smallSettings smallRun).server.listening = true := by
    rw [ofEvents_smallRun]
    rfl
  obtain ⟨before, look, wait, choice, later, _, _, _, _, hevents, _, _, _, _, _, _, hhost, _⟩ :=
    ofEvents_start_settings smallSettings smallRun hlistening
  have hquiet : ∀ other, .update other ∉ before ++ [look] ++ wait := by
    intro other hmem
    have hrun : .update other ∈ smallRun := by
      rw [hevents]
      simp only [List.mem_append] at hmem ⊢
      exact .inl (.inl hmem)
    simp [smallRun] at hrun
  have hchosen : (ofEvents smallSettings (before ++ [look] ++ wait)).server.settings = smallSettings :=
    settings_append [] hquiet
  rw [hchosen] at hhost
  exact ⟨hlistening, hhost⟩

end History

/-- New settings, which find no configuration on their own. -/
def strangeSettings : Settings where
  host := "127.0.0.1".toList
  overridePort := 8081

/-- The new settings come in while the start waits for its configuration. -/
def crossedRun : List Event :=
  [.call smallSite .start, .update strangeSettings, .resume smallSurroundings,
    .resume smallSurroundings]

def crossedPlan : ListenPlan :=
  { smallPlan with host := strangeSettings.host, port := 8081 }

theorem ofEvents_crossedRun : (History.ofEvents smallSettings crossedRun).server =
    (Server.run crossedPlan { settings := strangeSettings }).server := by
  let reading : Server := {
    settings := smallSettings
    kept := { state := .starting }
    phase := some (.reading "/nginx.conf".toList) }
  have hcalled : (Server.beginOperation smallSite .start { settings := smallSettings }).server =
      reading := by cbv
  have hread : ((reading.updateSettings strangeSettings).resume smallSurroundings).server =
      { reading.updateSettings strangeSettings with phase := some (.listening crossedPlan) } :=
    afterReading_smallSite (by cbv)
  change (Server.resume _ (Server.resume _ (Server.updateSettings strangeSettings
    (Server.beginOperation smallSite .start { settings := smallSettings }).server)).server).server = _
  rw [hcalled, hread]
  rfl

/-- No settings that were in force during the start give both the path and the host of the run. -/
theorem History.ofEvents_mixed_settings :
    let h := ofEvents smallSettings crossedRun
    h.server.status.state = .running ∧ h.inForce = [strangeSettings, smallSettings] ∧
      ∀ settings ∈ h.inForce, h.server.status.host = some settings.host →
        ∀ found, lookUpConfig smallSite settings = .ok found →
          found.path? ≠ h.server.status.configPath := by
  intro h
  have hserver : h.server = (Server.run crossedPlan { settings := strangeSettings }).server :=
    ofEvents_crossedRun
  let called : History := (fresh smallSettings).after (.call smallSite .start)
  have hwaits : called.server.phase.isSome = true := by
    have hphase : (Server.beginOperation smallSite .start
        { settings := smallSettings }).server.phase.isSome = true := by cbv
    exact hphase
  have hcalled : called.inForce = [smallSettings] := if_pos hwaits
  have hupdated : (called.after (.update strangeSettings)).inForce =
      strangeSettings :: called.inForce := if_pos hwaits
  have hforce : h.inForce = [strangeSettings, smallSettings] :=
    hupdated.trans (congrArg (strangeSettings :: ·) hcalled)
  have hlook : lookUpConfig smallSite strangeSettings = .ok ⟨none, .nowhere⟩ := by cbv
  rw [hserver, hforce]
  refine ⟨rfl, rfl, ?_⟩
  intro settings hmem hhost found hfound
  rcases List.mem_pair.mp hmem with rfl | rfl
  · cases hlook.symm.trans hfound
    exact (Option.some_ne_none _).symm
  · exact absurd (Option.some.inj hhost) (by decide +kernel)

end SitePreview
