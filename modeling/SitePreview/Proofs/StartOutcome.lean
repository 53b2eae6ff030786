import SitePreview.Proofs.Histories
import SitePreview.Server.Completion

namespace SitePreview

namespace Step

variable {around : Nat → Surroundings} {before : Nat} {first step : Step}

theorem followedBy_assoc (first step next : Step) :
    (first.followedBy step).followedBy next = first.followedBy (step.followedBy next) := by
  simp only [followedBy, List.append_assoc, Option.or_assoc]

theorem toEnd_of_reply {reply : Reply} (hreply : step.reply = some reply) :
    step.toEnd around before = step := by
  rw [toEnd, if_neg (by simp [hreply])]

/-- What has been done does not matter to the rest but for the listeners that it leaves open. -/
theorem toEnd_followedBy (hreply : first.reply = none) (around : Nat → Surroundings) (before : Nat)
    (step : Step) : (first.followedBy step).toEnd around before =
      first.followedBy (step.toEnd around (ListenerAct.openAfter before first.acts)) := by
  have hopen (next : Step) : ListenerAct.openAfter before (first.followedBy next).acts =
      ListenerAct.openAfter (ListenerAct.openAfter before first.acts) next.acts :=
    List.foldl_append
  have hwhole (next : Step) : ((first.followedBy next).reply = none ∧
      (first.followedBy next).server.phase ≠ none) ↔
        (next.reply = none ∧ next.server.phase ≠ none) := by
    simp [followedBy, hreply]
  induction step using toEnd.induct around (ListenerAct.openAfter before first.acts) with
  | case1 step hwaits ih =>
    rw [toEnd, if_pos ((hwhole step).mpr hwaits), hopen, followedBy_assoc]
    conv => rhs; rw [toEnd, if_pos hwaits]
    exact ih
  | case2 step hends =>
    rw [toEnd, if_neg (mt (hwhole step).mp hends)]
    conv => rhs; rw [toEnd, if_neg hends]

/-- A step that has only led to a phase is followed by what the server does from there. -/
theorem toEnd_of_waits {s : Server} {phase : Phase} (hphase : s.phase = some phase)
    (said : List Message) (around : Nat → Surroundings) (before : Nat) :
    ({ server := s, said } : Step).toEnd around before =
      ((s.resume (around before)).toEnd around before).afterSaying said := by
  rw [toEnd, if_pos ⟨rfl, by simp [hphase]⟩]
  exact toEnd_followedBy rfl around before _

end Step

namespace Server

/-- A start leads to a plan, and next asks for a listener for it. -/
def AsksFor (w : Surroundings) (s : Server) (plan : ListenPlan) : Prop :=
  ((s.beginOperation w.disk .start).server.resume w).server.phase = some (.listening plan)

/-- How a start of a server that does not run ends. -/
inductive StartEnds (w : Surroundings) (s : Server) (ended : Step) : Prop
  | running {plan said} : s.AsksFor w plan → w.listenFault = none →
      ended = (s.run plan).afterSaying said → StartEnds w s ended
  | unheard {plan error said} : s.AsksFor w plan → w.listenFault ≠ none →
      (error.IsInUse → w.listenFault = some .inUse) →
      ended = (s.fail error).afterSaying said → StartEnds w s ended
  | unplanned {error said} : (∀ plan, ¬s.AsksFor w plan) → ¬error.IsInUse →
      ended = (s.fail error).afterSaying said → StartEnds w s ended

variable {s : Server}

theorem beginOperation_start (hphase : s.phase = none) (disk : Disk) :
    s.beginOperation disk .start = s.beginStart disk :=
  if_neg (by simp [hphase])

theorem afterListening_cases (w : Surroundings) (plan : ListenPlan) (s : Server) :
    (w.listenFault = none ∧ s.afterListening w plan = s.run plan) ∨
      (w.listenFault = some .inUse ∧ s.afterListening w plan =
        { server := { s with phase := some (.naming plan.port) } }) ∨
      (w.listenFault ≠ none ∧ ∃ error said,
        s.afterListening w plan = (s.fail error).afterSaying said ∧ ¬error.IsInUse) := by
  unfold afterListening
  cases w.listenFault with
  | none => exact .inl ⟨rfl, rfl⟩
  | some fault =>
    cases fault with
    | inUse => exact .inr (.inl ⟨rfl, rfl⟩)
    | refused number why => exact .inr (.inr ⟨nofun, .notListening .., [], rfl, nofun⟩)
    | unforeseen why => exact .inr (.inr ⟨nofun, .unforeseen why, _, rfl, nofun⟩)

/-- A plan that is at hand is run, or there is no listener for it. -/
theorem toEnd_listening {plan : ListenPlan} (hphase : s.phase = some (.listening plan))
    (around : Nat → Surroundings) (before : Nat) :
    let w := around before
    let ended := (s.resume w).toEnd around before
    (w.listenFault = none ∧ ended = s.run plan) ∨
      (w.listenFault ≠ none ∧ ∃ error said, ended = (s.fail error).afterSaying said ∧
        (error.IsInUse → w.listenFault = some .inUse)) := by
  have hstep : s.resume (around before) = s.afterListening (around before) plan := by
    rw [resume, hphase]
  dsimp only
  rcases afterListening_cases (around before) plan s with
    ⟨hfree, hrun⟩ | ⟨hused, hnaming⟩ | ⟨hfault, error, said, hfail, hother⟩
  · rw [hstep, hrun]
    exact .inl ⟨hfree, Step.toEnd_of_reply rfl⟩
  · -- The owner is looked up in a step of its own.
    rw [hstep, hnaming, Step.toEnd_of_waits rfl, Step.toEnd_of_reply rfl]
    exact .inr ⟨by simp [hused], _, [], rfl, fun _ => hused⟩
  · rw [hstep, hfail]
    exact .inr ⟨hfault, error, said, Step.toEnd_of_reply rfl, fun h => absurd h hother⟩

theorem carryOut_start_ends (hphase : s.phase = none) (hlistening : s.listening = false)
    (around : Nat → Surroundings) : s.StartEnds (around 0) (s.carryOut around .start) := by
  have hbegin := beginOperation_start hphase (around 0).disk
  have hcarry : s.carryOut around .start = (s.beginStart (around 0).disk).toEnd around 0 := by
    unfold carryOut
    rw [hlistening]
    exact congrArg (Step.toEnd around 0) hbegin
  rw [hcarry]
  rcases beginStart_cases hlistening (around 0).disk with
    ⟨_, error, said, hfail, hother⟩ | ⟨path, said, _, hread⟩
  · rw [hfail]
    refine .unplanned ?_ hother (Step.toEnd_of_reply rfl)
    intro plan hasks
    rw [AsksFor, hbegin, hfail] at hasks
    cases hasks
  · let reading : Server :=
      { s with kept := { state := .starting }, phase := some (.reading path) }
    have hresume : (s.beginOperation (around 0).disk .start).server.resume (around 0) =
        reading.afterReading (around 0) path := by
      rw [hbegin, hread]
      rfl
    rw [hread, Step.toEnd_of_waits rfl]
    change s.StartEnds _ (((reading.afterReading (around 0) path).toEnd around 0).afterSaying said)
    rcases afterReading_cases (around 0) path reading with
      ⟨_, error, later, hfail, hother⟩ | ⟨config, later, _, hplan⟩
    · rw [hfail, Step.toEnd_of_reply rfl]
      refine .unplanned ?_ hother (afterSaying_afterSaying ..)
      intro plan hasks
      rw [AsksFor, hresume, hfail] at hasks
      cases hasks
    · let plan := reading.planFor (around 0).disk.cwd path config
      have hasks : s.AsksFor (around 0) plan := by
        rw [AsksFor, hresume, hplan]
      rw [hplan, Step.toEnd_of_waits rfl, afterSaying_afterSaying]
      rcases toEnd_listening (s := { reading with phase := some (.listening plan) }) rfl around 0 with
        ⟨hfree, hrun⟩ | ⟨hfault, error, last, hfail, hused⟩
      · rw [hrun]
        exact .running hasks hfree rfl
      · rw [hfail]
        exact .unheard hasks hfault hused (afterSaying_afterSaying ..)

theorem StartEnds.replies {w : Surroundings} {ended : Step} (h : s.StartEnds w ended) :
    ended.server.phase = none ∧ (ended.acts = [] ∨ ended.acts = [.opened]) ∧
      ∃ reply, ended.reply = some reply ∧
        (w.listenFault ≠ some .inUse → ∀ port owner, reply ≠ .failed (.portInUse port owner)) := by
  cases h with
  | running _ _ hended =>
    rw [hended]
    exact ⟨rfl, .inr rfl, _, rfl, fun _ _ _ => nofun⟩
  | @unheard plan error said _ _ hused hended =>
    rw [hended]
    refine ⟨rfl, .inl rfl, _, rfl, ?_⟩
    intro hfree port owner hreply
    cases hreply
    exact hfree (hused ⟨port, owner, rfl⟩)
  | @unplanned error said _ hother hended =>
    rw [hended]
    refine ⟨rfl, .inl rfl, _, rfl, ?_⟩
    intro _ port owner hreply
    cases hreply
    exact hother ⟨port, owner, rfl⟩

end Server

theorem asksFor_smallSite :
    ({ settings := smallSettings } : Server).AsksFor smallSurroundings smallPlan := by
  have hstart : ((Server.beginOperation smallSurroundings.disk .start
      { settings := smallSettings }).server.resume smallSurroundings).server =
        { settings := smallSettings, kept := { state := .starting }, phase := some (.listening smallPlan) } :=
    start_smallSite
  rw [Server.AsksFor, hstart]

end SitePreview
