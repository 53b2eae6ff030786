import SitePreview.Proofs.OperationSteps

namespace SitePreview

/-- A plan agrees with its configuration and with the settings it was made for. -/
def ListenPlan.Fits (settings : Settings) (plan : ListenPlan) : Prop :=
  plan.baseDir = plan.config.baseDir ∧ plan.port = Server.chosenPort settings plan.config

namespace Server

variable {s t : Server} {settled : Settings} {inForce : List Settings}

/-- Nothing of a run is held. -/
def Bare (s : Server) : Prop :=
  s.listening = false ∧ s.config = none ∧ s.kept.host = none ∧ s.kept.port = none

def Resting (s : Server) : Prop :=
  s.Bare ∧ (s.kept.state = .stopped ∨ s.kept.state = .error)

def Serving (settings : Settings) (s : Server) : Prop :=
  s.listening = true ∧ s.kept.state = .running ∧ ∃ config, s.config = some config ∧
    s.kept.documentRoot = some config.documentRoot ∧ s.kept.baseDir = some config.baseDir ∧
    s.kept.port = some (chosenPort settings config : Int)

/-- What holds in each phase, given the settings that a start has last chosen its address with and
those in force during the latest operation. -/
def Ordered (settled : Settings) (inForce : List Settings) (s : Server) : Prop :=
  match s.phase with
  | none => s.Serving settled ∧ settled ∈ inForce ∨ s.Resting
  | some (.closing ..) => s.listening = false
  | some (.reading _) => s.Bare
  | some (.listening plan) => s.Bare ∧ plan.Fits settled ∧ settled ∈ inForce
  | some (.naming _) => s.Bare

/-- A step of an operation keeps the life cycle in order and the account of listeners even. -/
structure Keeps (settled : Settings) (inForce : List Settings) (s : Server) (step : Step) :
    Prop where
  ordered : step.server.Ordered settled inForce
  even : s.listening.toNat + step.acts.count .opened =
    step.server.listening.toNat + step.acts.count .closed
  settings : step.server.settings = s.settings

theorem refuse_keeps (h : s.Ordered settled inForce) (r : Reply) :
    Keeps settled inForce s (s.refuse r) :=
  ⟨h, rfl, rfl⟩

theorem Ordered.bare_of_phase {phase : Phase} (h : s.Ordered settled inForce)
    (hphase : s.phase = some phase)
    (hopening : ∀ restarting terminated, phase ≠ .closing restarting terminated) : s.Bare := by
  rw [Ordered, hphase] at h
  cases phase with
  | closing restarting terminated => exact absurd rfl (hopening restarting terminated)
  | reading => exact h
  | listening => exact h.1
  | naming => exact h

theorem Ordered.silent (h : s.Ordered settled inForce) (hwaits : s.phase ≠ none) :
    s.listening = false := by
  unfold Ordered at h
  split at h
  next hphase => exact absurd hphase hwaits
  next => exact h
  next => exact h.1
  next => exact h.1.1
  next => exact h.1

theorem Ordered.config_eq_none (h : s.Ordered settled inForce) (hphase : s.phase = none)
    (hlistening : s.listening = false) : s.config = none := by
  rw [Ordered, hphase] at h
  rcases h with ⟨hserving, _⟩ | hresting
  · exact absurd hserving.1 (by simp [hlistening])
  · exact hresting.1.2.1

/-- A step of an operation leads from one phase to another, and only when it goes on from reading are
settings chosen, those of now. -/
theorem Advances.keeps {step : Step} (hstep : s.Advances step) (h : s.Ordered settled inForce)
    (hcurrent : s.phase.isSome = true → s.settings ∈ inForce) {next : List Settings}
    (hnext : step.server.phase = none ∨ s.phase.isSome = true → next = inForce) :
    Keeps (s.settledWith settled) next s step := by
  unfold settledWith
  cases hstep with
  | refused hphase =>
    cases hnext (.inl hphase)
    rw [hphase]
    exact refuse_keeps h _
  | closing hphase hlistening => exact ⟨rfl, by simp [hlistening], rfl⟩
  | stopped hlistening => exact ⟨.inr ⟨⟨hlistening, rfl, rfl, rfl⟩, .inl rfl⟩, rfl, rfl⟩
  | failed hlistening => exact ⟨.inr ⟨⟨hlistening, rfl, rfl, rfl⟩, .inr rfl⟩, rfl, rfl⟩
  | @reading disk found path config said hlistening hconfig =>
    -- A start that follows the closing of a listener has dropped the configuration itself.
    have hnone : config = none := by
      rcases hconfig with hdropped | ⟨hphase, hsame⟩
      · exact hdropped
      · exact hsame.trans (h.config_eq_none hphase hlistening)
    exact ⟨⟨hlistening, hnone, rfl, rfl⟩, rfl, rfl⟩
  | listening hlistening hphase hbase =>
    cases hnext (.inr (by simp [hphase]))
    have hbare : s.Bare := h.bare_of_phase hphase nofun
    have hin : s.settings ∈ inForce := hcurrent (by simp [hphase])
    rw [hphase]
    exact ⟨⟨hbare, ⟨hbase.symm, rfl⟩, hin⟩, rfl, rfl⟩
  | naming hlistening hphase =>
    exact ⟨h.bare_of_phase hphase nofun, rfl, rfl⟩
  | @serving plan hlistening hphase =>
    cases hnext (.inl rfl)
    rw [Ordered, hphase] at h
    obtain ⟨_, ⟨hbase, hport⟩, hin⟩ := h
    have hserving : Serving settled (s.run plan).server :=
      ⟨rfl, rfl, plan.config, rfl, rfl, congrArg some hbase,
        congrArg (fun port : Nat => some (port : Int)) hport⟩
    rw [hphase]
    exact ⟨.inl ⟨hserving, hin⟩, by simp [run, hlistening], rfl⟩

theorem beginOperation_keeps (h : s.Ordered settled inForce) (disk : Disk) (op : Operation)
    {next : List Settings} (hnext : (s.beginOperation disk op).server.phase = none ∨
      s.phase.isSome = true → next = inForce) :
    Keeps settled next s (s.beginOperation disk op) := by
  rcases beginOperation_cases disk op s with ⟨hbusy, hrefused⟩ | ⟨hphase, hstep⟩
  · cases hnext (.inr hbusy)
    rw [hrefused]
    exact refuse_keeps h .busy
  · have hkeeps := hstep.keeps h (by simp [hphase]) hnext
    rwa [settledWith, hphase] at hkeeps

theorem resume_keeps (h : s.Ordered settled inForce)
    (hcurrent : s.phase.isSome = true → s.settings ∈ inForce) (w : Surroundings) :
    Keeps (s.settledWith settled) inForce s (s.resume w) := by
  rcases resume_cases h.silent w with ⟨hphase, hidle⟩ | hstep
  · rw [hidle, settledWith, hphase]
    exact ⟨h, rfl, rfl⟩
  · exact hstep.keeps h hcurrent fun _ => rfl

theorem Ordered.beside (h : s.Ordered settled inForce) (hbeside : s.Beside t)
    {next : List Settings} (hnext : settled ∈ inForce → settled ∈ next) :
    t.Ordered settled next := by
  obtain ⟨_, _, _, _, rfl⟩ := hbeside
  unfold Ordered at h ⊢
  cases hphase : s.phase with
  | none =>
    rw [hphase] at h
    rcases h with ⟨hserving, hin⟩ | hresting
    · exact .inl ⟨hserving, hnext hin⟩
    · exact .inr hresting
  | some phase =>
    rw [hphase] at h
    cases phase with
    | closing | reading | naming => exact h
    | listening plan => exact ⟨h.1, h.2.1, hnext h.2.2⟩

end Server

end SitePreview
