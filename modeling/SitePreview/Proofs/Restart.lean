import SitePreview.Proofs.Histories
import SitePreview.Proofs.StartOutcome

namespace SitePreview

def Step.withRegistry (registry : Registry) (step : Step) : Step :=
  { step with server := { step.server with registry } }

namespace Server

variable {s : Server}

theorem beginStart_withRegistry (registry : Registry) (disk : Disk) (s : Server) :
    ({ s with registry } : Server).beginStart disk = (s.beginStart disk).withRegistry registry := by
  unfold beginStart
  dsimp only
  split
  · rfl
  · cases lookUpConfig disk s.settings with
    | error e => rfl
    | ok found =>
      dsimp only
      cases found.path? <;> rfl

theorem afterClosing_withRegistry (registry : Registry) (disk : Disk) (restarting : Bool)
    (terminated : Nat) (s : Server) :
    ({ s with registry } : Server).afterClosing disk restarting terminated =
      (s.afterClosing disk restarting terminated).withRegistry registry := by
  cases restarting with
  | false => rfl
  | true => exact congrArg (Step.afterSaying _) (beginStart_withRegistry registry disk
      { s with config := none, kept := {}, phase := none })

theorem afterReading_withRegistry (registry : Registry) (w : Surroundings) (path : Text)
    (s : Server) : ({ s with registry } : Server).afterReading w path =
      (s.afterReading w path).withRegistry registry := by
  unfold afterReading
  cases w.disk.parseConfig w.platform path with
  | error e =>
    dsimp only
    split <;> rfl
  | ok parsed =>
    dsimp only
    cases ServerConfig.ofNodes w.platform.patterns w.disk.cwd (baseDirFor w.disk.cwd s.settings path)
        parsed.nodes with
    | error e =>
      dsimp only
      split <;> rfl
    | ok found => cases found <;> rfl

theorem afterListening_withRegistry (registry : Registry) (w : Surroundings) (plan : ListenPlan)
    (s : Server) : ({ s with registry } : Server).afterListening w plan =
      (s.afterListening w plan).withRegistry registry := by
  unfold afterListening
  split <;> rfl

/-- No step of an operation looks at the connections but the one that terminates them. -/
theorem resume_withRegistry (registry : Registry) (w : Surroundings) (s : Server) :
    ({ s with registry } : Server).resume w = (s.resume w).withRegistry registry := by
  obtain ⟨settings, listening, config, kept, phase, connections⟩ := s
  cases phase with
  | none => rfl
  | some phase =>
    cases phase with
    | closing restarting terminated =>
      exact afterClosing_withRegistry registry w.disk restarting terminated _
    | reading path => exact afterReading_withRegistry registry w path _
    | listening plan => exact afterListening_withRegistry registry w plan _
    | naming port => rfl

theorem toEnd_withRegistry (registry : Registry) (around : Nat → Surroundings) (before : Nat)
    (step : Step) : (step.withRegistry registry).toEnd around before =
      (step.toEnd around before).withRegistry registry := by
  induction step using Step.toEnd.induct around before with
  | case1 step hwaits ih =>
    -- What surrounds the next step depends on what was done, which is the same for both.
    have hnext : (step.withRegistry registry).server.resume
          (around (ListenerAct.openAfter before step.acts)) =
        (step.server.resume (around (ListenerAct.openAfter before step.acts))).withRegistry
          registry :=
      resume_withRegistry registry _ step.server
    rw [Step.toEnd, if_pos (by exact hwaits)]
    conv => rhs; rw [Step.toEnd, if_pos hwaits]
    rw [← ih]
    exact congrArg (fun next => Step.toEnd around before (step.followedBy next)) hnext
  | case2 step hends =>
    rw [Step.toEnd, if_neg (by exact hends)]
    conv => rhs; rw [Step.toEnd, if_neg hends]

/-- Nothing of a server that rests goes into a restart but its settings and its connections. -/
theorem carryOut_restart_silent (hphase : s.phase = none) (hlistening : s.listening = false)
    (hconfig : s.config = none) (around : Nat → Surroundings) :
    s.carryOut around .restart =
      (({ settings := s.settings } : Server).carryOut around .start).withRegistry s.registry := by
  have hbegin : s.beginOperation (around 0).disk .restart =
      (({ settings := s.settings } : Server).beginStart (around 0).disk).withRegistry s.registry := by
    rw [← beginStart_withRegistry, beginOperation, if_neg (by simp [hphase])]
    simp only [beginStart, hlistening, hconfig, Bool.false_eq_true, if_false]
  calc s.carryOut around .restart
      = (s.beginOperation (around 0).disk .restart).toEnd around 0 := by
        rw [carryOut, hlistening]
        rfl
    _ = _ := by
        rw [hbegin, toEnd_withRegistry]
        rfl

/-- A server that listens closes its listener, and starts again as a new one does. -/
theorem carryOut_restart_listening (hphase : s.phase = none) (hlistening : s.listening = true)
    (around : Nat → Surroundings) :
    ∃ closing : Step, closing.reply = none ∧ closing.acts = [.closed] ∧
      s.carryOut around .restart =
        closing.followedBy (({ settings := s.settings } : Server).carryOut around .start) := by
  let closed : Server := { s with
    listening := false
    kept := { s.kept with state := .stopping }
    phase := some (.closing true s.registry.size)
    registry := {} }
  let fresh : Server := { settings := s.settings }
  have hbegin : s.beginOperation (around 1).disk .restart =
      { server := closed, acts := [.closed] } := by
    rw [beginOperation, if_neg (by simp [hphase])]
    simp only [beginStop, hlistening, if_true]
    rfl
  -- Once the listener is closed there is nothing left that a new server does not have.
  obtain ⟨said, hresume⟩ : ∃ said, closed.resume (around 0) =
      (fresh.beginStart (around 0).disk).afterSaying said := ⟨_, rfl⟩
  refine ⟨{ server := closed, said, acts := [.closed] }, rfl, rfl, ?_⟩
  calc s.carryOut around .restart
      = ({ server := closed, acts := [.closed] } : Step).toEnd around 1 := by
        rw [carryOut, hlistening]
        exact congrArg (Step.toEnd around 1) hbegin
    _ = (Step.followedBy { server := closed, said, acts := [.closed] }
          (fresh.beginStart (around 0).disk)).toEnd around 1 := by
        rw [Step.toEnd, if_pos ⟨rfl, Option.some_ne_none _⟩]
        dsimp only [ListenerAct.openAfter, List.foldl_cons, List.foldl_nil]
        rw [hresume]
        rfl
    _ = _ := Step.toEnd_followedBy rfl around 1 _

end Server

namespace History

/-- A restart, after whatever history, does what a start of a new server with the same settings does:
it replies the same and leaves the same configuration and the same status but for the connections. A
listener that was open is closed before the new one is opened, so the port is not found in use for its
sake. -/
theorem ofEvents_carryOut_restart (settings : Settings) (events : List Event)
    (hfree : (ofEvents settings events).server.phase = none) (around : Nat → Surroundings) :
    let s := (ofEvents settings events).server
    let restarted := s.carryOut around .restart
    let started := ({ settings := s.settings } : Server).carryOut around .start
    (∃ reply, restarted.reply = some reply ∧ started.reply = some reply ∧
      ((around 0).listenFault ≠ some .inUse →
        ∀ port owner, reply ≠ .failed (.portInUse port owner))) ∧
      restarted.server = { started.server with registry := restarted.server.registry } ∧
      restarted.server.config = started.server.config ∧
      restarted.server.status = { started.server.status with
        activeConnections := restarted.server.registry.size } ∧
      restarted.server.phase = none ∧
      restarted.acts = (if s.listening then [.closed] else []) ++ started.acts ∧
      (started.acts = [] ∨ started.acts = [.opened]) := by
  intro s restarted started
  have hsame : restarted.reply = started.reply ∧
      restarted.server = { started.server with registry := restarted.server.registry } ∧
      restarted.acts = (if s.listening then [.closed] else []) ++ started.acts := by
    cases hlistening : s.listening with
    | true =>
      obtain ⟨closing, hreply, hacts, hrestart⟩ :=
        Server.carryOut_restart_listening hfree hlistening around
      have hrestarted : restarted = closing.followedBy started := hrestart
      rw [hrestarted]
      simp [Step.followedBy, hreply, hacts]
    | false =>
      have hconfig := (ofEvents_sound settings events).ordered.config_eq_none hfree hlistening
      have hrestarted : restarted = started.withRegistry s.registry :=
        Server.carryOut_restart_silent hfree hlistening hconfig around
      rw [hrestarted]
      exact ⟨rfl, rfl, rfl⟩
  obtain ⟨hreply, hserver, hacts⟩ := hsame
  obtain ⟨hphase, hopened, reply, hstarted, hunused⟩ :=
    (Server.carryOut_start_ends (s := { settings := s.settings }) rfl rfl around).replies
  refine ⟨⟨reply, hreply.trans hstarted, hstarted, hunused⟩, hserver, ?_, ?_, ?_, hacts, hopened⟩
  · rw [hserver]
  · exact congrArg Server.status hserver
  · rw [hserver]
    exact hphase

/-- The address is free only while the server itself does not listen on it. -/
theorem ofEvents_carryOut_restart_smallRun :
    (ofEvents smallSettings smallRun).server.phase = none ∧
      ((ofEvents smallSettings smallRun).server.carryOut (fun listeners => { smallSurroundings with
        listenFault := if listeners = 0 then none else some .inUse }) .restart).acts =
          [.closed, .opened] := by
  let around (listeners : Nat) : Surroundings := { smallSurroundings with
    listenFault := if listeners = 0 then none else some .inUse }
  have hfree : (ofEvents smallSettings smallRun).server.phase = none := by
    rw [ofEvents_smallRun]
    rfl
  have hlistening : (ofEvents smallSettings smallRun).server.listening = true := by
    rw [ofEvents_smallRun]
    rfl
  have hsettings : (ofEvents smallSettings smallRun).server.settings = smallSettings := by
    rw [ofEvents_smallRun]
    rfl
  obtain ⟨_, _, _, _, _, hacts, _⟩ := ofEvents_carryOut_restart smallSettings smallRun hfree around
  have hstarted : (({ settings := smallSettings } : Server).carryOut around .start).acts =
      [.opened] := by
    cases Server.carryOut_start_ends (s := { settings := smallSettings }) rfl rfl around with
    | running _ _ hended =>
      rw [hended]
      rfl
    | unheard _ hfault => exact absurd rfl hfault
    | unplanned hnone => exact absurd asksFor_smallSite (hnone smallPlan)
  refine ⟨hfree, hacts.trans ?_⟩
  rw [hlistening, hsettings, hstarted]
  rfl

end History

end SitePreview
