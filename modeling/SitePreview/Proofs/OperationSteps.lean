import SitePreview.Proofs.BaseDirectory
import SitePreview.Server.History

namespace SitePreview

/-- The plan that a start makes of a configuration file with the settings of the moment. -/
def Server.planFor (cwd path : Text) (config : ServerConfig) (s : Server) : ListenPlan where
  configPath := path
  baseDir := baseDirFor cwd s.settings path
  config
  host := s.settings.host
  port := chosenPort s.settings config

/-- A start fails because its port is in use. -/
def StartError.IsInUse (error : StartError) : Prop :=
  ∃ port owner, error = .portInUse port owner

/-- A look for the configuration finds a path. -/
def Locates (disk : Disk) (settings : Settings) (path : Text) : Prop :=
  ∃ found, lookUpConfig disk settings = .ok found ∧ found.path? = some path

/-- What a path holds is parsed, and its first server gives a configuration. -/
def Builds (w : Surroundings) (settings : Settings) (path : Text) (config : ServerConfig) : Prop :=
  ∃ parsed, w.disk.parseConfig w.platform path = .ok parsed ∧
    ServerConfig.ofNodes w.platform.patterns w.disk.cwd (baseDirFor w.disk.cwd settings path)
      parsed.nodes = .ok (some config)

theorem Locates.unique {disk : Disk} {settings : Settings} {path other : Text}
    (h : Locates disk settings path) (hother : Locates disk settings other) : path = other := by
  obtain ⟨found, hfound, hpath⟩ := h
  obtain ⟨again, hagain, hpathAgain⟩ := hother
  cases hfound.symm.trans hagain
  exact Option.some.inj (hpath.symm.trans hpathAgain)

theorem Builds.unique {w : Surroundings} {settings : Settings} {path : Text} {config other : ServerConfig}
    (h : Builds w settings path config) (hother : Builds w settings path other) : config = other := by
  obtain ⟨parsed, hparsed, hbuilt⟩ := h
  obtain ⟨again, hagain, hbuiltAgain⟩ := hother
  cases hparsed.symm.trans hagain
  exact Option.some.inj (Except.ok.inj (hbuilt.symm.trans hbuiltAgain))

/-- What a step of an operation leads to. -/
inductive Server.Advances (s : Server) : Step → Prop
  | refused {reply} : s.phase = none → reply = .alreadyRunning ∨ reply = .notRunning →
      Advances s (s.refuse reply)
  | closing {restarting terminated registry} : s.phase = none → s.listening = true →
      Advances s {
        server := { s with
          listening := false
          kept := { s.kept with state := .stopping }
          phase := some (.closing restarting terminated)
          registry }
        acts := [.closed] }
  | stopped {terminated said} : s.listening = false → s.phase = some (.closing false terminated) →
      Advances s {
        server := { s with config := none, kept := {}, phase := none }
        said
        reply := some .stopped }
  | reading {disk found path config said} : s.listening = false →
      config = none ∨ s.phase = none ∧ config = s.config →
      lookUpConfig disk s.settings = .ok found → found.path? = some path →
      Advances s {
        server := { s with config, kept := { state := .starting }, phase := some (.reading path) }
        said }
  | listening {cwd path config said} : s.listening = false → s.phase = some (.reading path) →
      config.baseDir = baseDirFor cwd s.settings path →
      Advances s { server := { s with phase := some (.listening (s.planFor cwd path config)) }, said }
  | naming {plan} : s.listening = false → s.phase = some (.listening plan) →
      Advances s { server := { s with phase := some (.naming plan.port) } }
  | serving {plan} : s.listening = false → s.phase = some (.listening plan) → Advances s (s.run plan)
  | failed {error said} : s.listening = false →
      Advances s {
        server := { s with
          config := none
          kept := { state := .error, lastError := some error.message }
          phase := none }
        said
        reply := some (.failed error) }

namespace Server.Advances

variable {s : Server} {step : Step}

theorem waits_or_replies (h : s.Advances step) :
    (∃ phase, step.server.phase = some phase ∧ step.reply = none) ∨
      ∃ reply, step.server.phase = none ∧ step.reply = some reply := by
  cases h with
  | refused hphase => exact .inr ⟨_, hphase, rfl⟩
  | closing | reading | listening | naming => exact .inl ⟨_, rfl, rfl⟩
  | stopped | serving | failed => exact .inr ⟨_, rfl, rfl⟩

theorem silent_of_waits (h : s.Advances step) (hwaits : step.server.phase ≠ none) :
    step.server.listening = false := by
  cases h with
  | refused hphase => exact absurd hphase hwaits
  | closing => rfl
  | reading hlistening | listening hlistening | naming hlistening => exact hlistening
  | stopped | serving | failed => exact absurd rfl hwaits

theorem count_opened (h : s.Advances step) (hlistening : step.server.listening = false) :
    step.acts.count .opened = 0 := by
  cases h with
  | serving => cases hlistening
  | refused | closing | stopped | reading | listening | naming | failed => rfl

theorem settings (h : s.Advances step) : step.server.settings = s.settings := by
  cases h <;> rfl

end Server.Advances

namespace Server

variable {s : Server}

theorem afterSaying_afterSaying (said later : List Message) (step : Step) :
    (step.afterSaying later).afterSaying said = step.afterSaying (said ++ later) := by
  simp only [Step.afterSaying, List.append_assoc]

/-- A start of a server that does not listen finds a path, or it fails at once. -/
theorem beginStart_cases (hlistening : s.listening = false) (disk : Disk) :
    ((∀ path, ¬Locates disk s.settings path) ∧ ∃ error said,
      s.beginStart disk = (s.fail error).afterSaying said ∧ ¬error.IsInUse) ∨
    ∃ path said, Locates disk s.settings path ∧ s.beginStart disk = {
      server := { s with kept := { state := .starting }, phase := some (.reading path) }, said } := by
  unfold beginStart Locates
  rw [if_neg (by simp [hlistening])]
  dsimp only
  cases hfound : lookUpConfig disk s.settings with
  | error e => exact .inl ⟨by simp, .unforeseen _, _, rfl, nofun⟩
  | ok found =>
    dsimp only
    cases hpath : found.path? with
    | none => exact .inl ⟨by simp [hpath], .noConfig, _, rfl, nofun⟩
    | some path => exact .inr ⟨path, _, ⟨found, rfl, hpath⟩, rfl⟩

/-- A start that goes on from reading has built a configuration, or it fails. -/
theorem afterReading_cases (w : Surroundings) (path : Text) (s : Server) :
    ((∀ config, ¬Builds w s.settings path config) ∧ ∃ error said,
      s.afterReading w path = (s.fail error).afterSaying said ∧ ¬error.IsInUse) ∨
    ∃ config said, Builds w s.settings path config ∧ s.afterReading w path = {
      server := { s with phase := some (.listening (s.planFor w.disk.cwd path config)) }, said } := by
  unfold afterReading Builds
  cases hparsed : w.disk.parseConfig w.platform path with
  | error e =>
    refine .inl ⟨by simp, ?_⟩
    dsimp only
    split
    · exact ⟨.unreadable path e, [], rfl, nofun⟩
    · exact ⟨.unforeseen e.message, _, rfl, nofun⟩
  | ok parsed =>
    dsimp only
    cases hbuilt : ServerConfig.ofNodes w.platform.patterns w.disk.cwd
        (baseDirFor w.disk.cwd s.settings path) parsed.nodes with
    | error e =>
      refine .inl ⟨by simp [hbuilt], ?_⟩
      dsimp only
      split
      · exact ⟨.badConfig e, _, rfl, nofun⟩
      · exact ⟨.unforeseen e.message, _, afterSaying_afterSaying .., nofun⟩
    | ok found =>
      cases found with
      | none => exact .inl ⟨by simp [hbuilt], .noServer, _, rfl, nofun⟩
      | some config => exact .inr ⟨config, _, ⟨parsed, rfl, hbuilt⟩, rfl⟩

theorem beginStart_of_silent (hlistening : s.listening = false) {config : Option ServerConfig}
    (hconfig : config = none ∨ s.phase = none ∧ config = s.config) (kept : Status)
    (phase : Option Phase) (disk : Disk) (said : List Message) :
    s.Advances ((({ s with config, kept, phase } : Server).beginStart disk).afterSaying said) := by
  rcases beginStart_cases (s := { s with config, kept, phase }) hlistening disk with
    ⟨_, error, later, hfail, _⟩ | ⟨path, later, ⟨found, hfound, hpath⟩, hread⟩
  · rw [hfail]
    exact .failed hlistening
  · rw [hread]
    exact .reading hlistening hconfig hfound hpath

theorem beginStart_advances (hphase : s.phase = none) (disk : Disk) : s.Advances (s.beginStart disk) := by
  cases hlistening : s.listening with
  | false => exact beginStart_of_silent hlistening (.inr ⟨hphase, rfl⟩) s.kept s.phase disk []
  | true =>
    rw [beginStart, if_pos hlistening]
    exact .refused hphase (.inl rfl)

theorem beginStop_advances (hphase : s.phase = none) (restarting : Bool) :
    s.Advances (s.beginStop restarting) := by
  unfold beginStop
  split
  next hlistening => exact .closing hphase hlistening
  next => exact .refused hphase (.inr rfl)

theorem beginOperation_advances (hphase : s.phase = none) (disk : Disk) (op : Operation) :
    s.Advances (s.beginOperation disk op) := by
  unfold beginOperation
  rw [if_neg (by simp [hphase])]
  cases op with
  | start => exact beginStart_advances hphase disk
  | stop => exact beginStop_advances hphase false
  | restart =>
    dsimp only
    split
    · exact beginStop_advances hphase true
    · exact beginStart_advances hphase disk

theorem afterClosing_advances {restarting : Bool} {terminated : Nat} (hlistening : s.listening = false)
    (hphase : s.phase = some (.closing restarting terminated)) (disk : Disk) :
    s.Advances (s.afterClosing disk restarting terminated) := by
  unfold afterClosing
  cases restarting with
  | false => exact .stopped hlistening hphase
  | true => exact beginStart_of_silent hlistening (.inl rfl) {} none disk _

theorem afterReading_advances {path : Text} (hlistening : s.listening = false)
    (hphase : s.phase = some (.reading path)) (w : Surroundings) :
    s.Advances (s.afterReading w path) := by
  rcases afterReading_cases w path s with
    ⟨_, error, said, hfail, _⟩ | ⟨config, said, ⟨parsed, _, hbuilt⟩, hplan⟩
  · rw [hfail]
    exact .failed hlistening
  · rw [hplan]
    exact .listening hlistening hphase (ofNodes_keeps_baseDir w.disk.rooted hbuilt)

theorem afterListening_advances {plan : ListenPlan} (hlistening : s.listening = false)
    (hphase : s.phase = some (.listening plan)) (w : Surroundings) :
    s.Advances (s.afterListening w plan) := by
  unfold afterListening
  split
  · exact .serving hlistening hphase
  · exact .naming hlistening hphase
  · exact .failed hlistening
  · exact .failed hlistening

theorem resume_advances {phase : Phase} (hlistening : s.listening = false)
    (hphase : s.phase = some phase) (w : Surroundings) : s.Advances (s.resume w) := by
  unfold resume
  rw [hphase]
  cases phase with
  | closing restarting terminated => exact afterClosing_advances hlistening hphase w.disk
  | reading path => exact afterReading_advances hlistening hphase w
  | listening plan => exact afterListening_advances hlistening hphase w
  | naming port => exact .failed hlistening

theorem beginOperation_cases (disk : Disk) (op : Operation) (s : Server) :
    (s.phase.isSome = true ∧ s.beginOperation disk op = s.refuse .busy) ∨
      (s.phase = none ∧ s.Advances (s.beginOperation disk op)) := by
  cases hphase : s.phase with
  | none => exact .inr ⟨rfl, beginOperation_advances hphase disk op⟩
  | some phase =>
    refine .inl ⟨rfl, ?_⟩
    unfold beginOperation
    exact if_pos (by rw [hphase]; rfl)

theorem resume_cases (hsilent : s.phase ≠ none → s.listening = false) (w : Surroundings) :
    (s.phase = none ∧ s.resume w = { server := s }) ∨ s.Advances (s.resume w) := by
  cases hphase : s.phase with
  | none => exact .inl ⟨rfl, by simp only [resume, hphase]⟩
  | some phase => exact .inr (resume_advances (hsilent (by simp [hphase])) hphase w)

/-- Two servers differ at most in the settings, the connections and what is kept of requests. -/
def Beside (s t : Server) : Prop :=
  ∃ settings registry requestsHandled lastError,
    t = { s with settings, registry, kept := { s.kept with requestsHandled, lastError } }

theorem Beside.refl (s : Server) : s.Beside s := ⟨_, _, _, _, rfl⟩

theorem arrive_beside {method target : Text} {t : Server} {said : List Message} {arrival : Arrival}
    (h : s.arrive method target = .ok (t, said, arrival)) :
    s.Beside t ∧ t.settings = s.settings := by
  unfold arrive at h
  split at h
  · cases h
    exact ⟨.refl s, rfl⟩
  · obtain ⟨path, _, h⟩ := exceptBind_eq_ok.mp h
    cases exceptPure_eq_ok.mp h
    exact ⟨⟨_, _, _, _, rfl⟩, rfl⟩

theorem finishResolved_beside (disk : Disk) (r : Resolved) (s : Server) :
    s.Beside (s.finishResolved disk r).server ∧
      (s.finishResolved disk r).server.settings = s.settings := by
  unfold finishResolved
  split
  · exact ⟨.refl s, rfl⟩
  · unfold finishFetch
    split <;> exact ⟨⟨_, _, _, _, rfl⟩, rfl⟩
  · exact ⟨⟨_, _, _, _, rfl⟩, rfl⟩

theorem meet_beside {e : Event} (hcall : ∀ disk op, e ≠ .call disk op)
    (hresume : ∀ w, e ≠ .resume w) :
    s.Beside (s.meet e).server ∧
      ((∀ settings, e ≠ .update settings) → (s.meet e).server.settings = s.settings) := by
  cases e with
  | call disk op => exact absurd rfl (hcall disk op)
  | resume w => exact absurd rfl (hresume w)
  | update settings => exact ⟨⟨_, _, _, _, rfl⟩, fun h => absurd rfl (h settings)⟩
  | arrive method target =>
    simp only [meet]
    cases harrive : s.arrive method target with
    | error fault => exact ⟨.refl s, fun _ => rfl⟩
    | ok found =>
      obtain ⟨t, said, arrival⟩ := found
      obtain ⟨hbeside, hsettings⟩ := arrive_beside harrive
      exact ⟨hbeside, fun _ => hsettings⟩
  | finish disk resolved =>
    obtain ⟨hbeside, hsettings⟩ := finishResolved_beside disk resolved s
    exact ⟨hbeside, fun _ => hsettings⟩
  | connect id => exact ⟨⟨_, _, _, _, rfl⟩, fun _ => rfl⟩
  | disconnect id => exact ⟨⟨_, _, _, _, rfl⟩, fun _ => rfl⟩

/-- An event is a step of an operation or happens beside it; only an update changes the settings. -/
theorem meet_cases (hsilent : s.phase ≠ none → s.listening = false) (e : Event) :
    (s.Beside (s.meet e).server ∧
        ((∀ settings, e ≠ .update settings) → (s.meet e).server.settings = s.settings)) ∨
      s.Advances (s.meet e) := by
  cases e with
  | call disk op =>
    rcases beginOperation_cases disk op s with ⟨_, hbusy⟩ | ⟨_, hstep⟩
    · rw [meet, hbusy]
      exact .inl ⟨.refl s, fun _ => rfl⟩
    · exact .inr hstep
  | resume w =>
    rcases resume_cases hsilent w with ⟨_, hidle⟩ | hstep
    · rw [meet, hidle]
      exact .inl ⟨.refl s, fun _ => rfl⟩
    · exact .inr hstep
  | update | arrive | finish | connect | disconnect => exact .inl (meet_beside nofun nofun)

end Server

end SitePreview
