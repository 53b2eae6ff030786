import SitePreview.Proofs.StartOutcome
import SitePreview.Proofs.StartSettings
import SitePreview.Server.Session

namespace SitePreview

theorem Phase.stepsLeft_bounds (phase : Phase) :
    0 < phase.stepsLeft ∧ phase.stepsLeft ≤ Session.longestOperation := by
  cases phase with
  | closing restarting terminated =>
    cases restarting <;> simp [stepsLeft, Session.longestOperation]
  | reading | listening | naming => simp [stepsLeft, Session.longestOperation]

namespace Server

/-- Nothing is left of a start but what it has failed with. -/
structure FailedWith (message : Text) (s : Server) : Prop where
  listening : s.listening = false
  config : s.config = none
  phase : s.phase = none
  status : s.status = {
    state := .error
    lastError := some message
    activeConnections := s.registry.size }

variable {s : Server} {op : Operation} {step : Step}

theorem stepsLeft_le (s : Server) : s.stepsLeft ≤ Session.longestOperation := by
  unfold stepsLeft
  cases s.phase with
  | none => exact Nat.zero_le _
  | some phase => exact phase.stepsLeft_bounds.2

theorem stepsLeft_pos (hphase : s.phase ≠ none) : 0 < s.stepsLeft := by
  obtain ⟨phase, hphase⟩ := Option.ne_none_iff_exists'.mp hphase
  simpa [stepsLeft, hphase] using phase.stepsLeft_bounds.1

theorem beginOperation_of_refusal {reply : Reply} (h : s.refusal? op = some reply) (disk : Disk) :
    s.beginOperation disk op = s.refuse reply ∧ reply.isSuccess = false := by
  unfold refusal? at h
  unfold beginOperation
  split at h
  next hbusy =>
    cases h
    exact ⟨if_pos hbusy, rfl⟩
  next hidle =>
    rw [if_neg hidle]
    cases op with
    | start =>
      obtain ⟨hlistening, hreply⟩ := Option.ite_none_right_eq_some.mp h
      cases hreply
      exact ⟨if_pos hlistening, rfl⟩
    | stop =>
      obtain ⟨hlistening, hreply⟩ := Option.ite_none_left_eq_some.mp h
      cases hreply
      exact ⟨if_neg hlistening, rfl⟩
    | restart => cases h

/-- A call that is not refused waits, or it is a start that has failed at once. -/
theorem beginOperation_of_accepted (h : s.refusal? op = none) (disk : Disk) :
    (∃ phase, (s.beginOperation disk op).server.phase = some phase ∧
        (s.beginOperation disk op).reply = none) ∨
      ∃ error said, s.listening = false ∧
        s.beginOperation disk op = (s.fail error).afterSaying said := by
  have hstart (hlistening : s.listening = false) :
      (∃ phase, (s.beginStart disk).server.phase = some phase ∧ (s.beginStart disk).reply = none) ∨
        ∃ error said, s.listening = false ∧ s.beginStart disk = (s.fail error).afterSaying said := by
    rcases beginStart_cases hlistening disk with ⟨_, error, said, hfail, _⟩ | ⟨path, said, _, hread⟩
    · exact .inr ⟨error, said, hlistening, hfail⟩
    · exact .inl ⟨_, by rw [hread], by rw [hread]⟩
  have hstop (restarting : Bool) (hlistening : s.listening = true) :
      ∃ phase, (s.beginStop restarting).server.phase = some phase ∧
        (s.beginStop restarting).reply = none := by
    simp [beginStop, hlistening]
  unfold refusal? at h
  split at h
  next => cases h
  next hidle =>
    unfold beginOperation
    rw [if_neg hidle]
    cases op with
    | start => exact hstart (by simpa using h)
    | stop => exact .inl (hstop false (by simpa using h))
    | restart =>
      dsimp only
      split
      next hlistening => exact .inl (hstop true hlistening)
      next hlistening => exact hstart (by simpa using hlistening)

theorem fail_failedWith (hlistening : s.listening = false) (error : StartError) :
    (s.fail error).server.FailedWith error.message :=
  ⟨hlistening, rfl, rfl, rfl⟩

theorem Advances.failedWith (h : s.Advances step) (hphase : s.phase ≠ none) {reply : Reply}
    (hreply : step.reply = some reply) (hfailed : reply.isSuccess = false) :
    step.server.FailedWith reply.message := by
  cases h with
  | refused hidle => exact absurd hidle hphase
  | closing | reading | listening | naming => cases hreply
  | stopped | serving =>
    cases hreply
    cases hfailed
  | failed hlistening =>
    cases hreply
    exact ⟨hlistening, rfl, rfl, rfl⟩

/-- What happens to a server while an operation waits, and does not resume it, leaves its phase. -/
theorem meet_phase (hphase : s.phase ≠ none) {e : Event} (he : e.isResume = false) :
    (s.meet e).server.phase = s.phase := by
  have hbeside : s.Beside (s.meet e).server := by
    cases e with
    | resume w => cases he
    | call disk op =>
      rcases beginOperation_cases disk op s with ⟨_, hbusy⟩ | ⟨hidle, _⟩
      · rw [meet, hbusy]
        exact .refl s
      · exact absurd hidle hphase
    | update | arrive | finish | connect | disconnect => refine (meet_beside ?_ ?_).1 <;> simp
  obtain ⟨_, _, _, _, heq⟩ := hbeside
  rw [heq]

end Server

theorem Event.exists_of_isResume {e : Event} (he : e.isResume = true) : ∃ w, e = .resume w := by
  cases e with
  | resume w => exact ⟨w, rfl⟩
  | call | update | arrive | finish | connect | disconnect => cases he

namespace History

variable {h : History}

theorem exists_conclusion {later : List Event} (sound : h.Sound) (hphase : h.server.phase ≠ none)
    (hlater : h.server.stepsLeft ≤ later.countP Event.isResume) :
    ∃ before : History, ∃ e reply, before.Sound ∧ before.server.phase ≠ none ∧
      before.server.Advances (before.server.meet e) ∧
      (before.server.meet e).reply = some reply ∧
      h.conclusion? later = some (before.after e, before.server.meet e) := by
  induction later generalizing h with
  | nil => exact absurd hlater (Nat.not_le_of_lt (Server.stepsLeft_pos hphase))
  | cons e later ih =>
    have hserver : (h.after e).server = (h.server.meet e).server := rfl
    rw [List.countP_cons] at hlater
    -- Only a resumption lowers the steps left, and it alone is counted.
    cases hresume : e.isResume with
    | false =>
      have hsame := Server.meet_phase hphase hresume
      have hleft : (h.after e).server.stepsLeft = h.server.stepsLeft := by
        rw [Server.stepsLeft, hserver, hsame, Server.stepsLeft]
      have hwaits : (h.after e).server.phase ≠ none := by rwa [hserver, hsame]
      have hskip : h.conclusion? (e :: later) = (h.after e).conclusion? later := by
        simp [conclusion?, hresume]
      rw [hskip]
      exact ih (sound.after e) hwaits (by simpa [hresume, hleft] using hlater)
    | true =>
      obtain ⟨w, rfl⟩ := Event.exists_of_isResume hresume
      obtain ⟨phase, hnow⟩ := Option.ne_none_iff_exists'.mp hphase
      have hstep : h.server.Advances (h.server.meet (.resume w)) :=
        Server.resume_advances (sound.ordered.silent hphase) hnow w
      rcases hstep.waits_or_replies with ⟨phase, hwaits, hsilent⟩ | ⟨reply, _, hreply⟩
      · have hskip : h.conclusion? (.resume w :: later) =
            (h.after (.resume w)).conclusion? later := by
          simp [conclusion?, hsilent]
        rw [hskip]
        refine ih (sound.after _) ?_ ?_
        · simp [hserver, hwaits]
        · have hfewer : (h.after (.resume w)).server.stepsLeft < h.server.stepsLeft :=
            Server.stepsLeft_resume w hphase
          simp only [hresume, if_true] at hlater
          omega
      · exact ⟨h, _, reply, sound, hphase, hstep, hreply, by simp [conclusion?, hresume, hreply]⟩

theorem Sound.opened_eq_closed (sound : h.Sound) (hlistening : h.server.listening = false) :
    h.opened = h.closed := by
  have heven := sound.even
  rw [hlistening] at heven
  exact heven

theorem after_refused {disk : Disk} {op : Operation} {reply : Reply}
    (hrefused : h.server.beginOperation disk op = h.server.refuse reply) :
    h.after (.call disk op) = h := by
  have hserver : h.server.meet (.call disk op) = h.server.refuse reply := hrefused
  have hforce : h.inForceAfter (.call disk op) h.server = h.inForce := by
    simp [inForceAfter]
  unfold after
  dsimp only
  rw [hserver]
  dsimp only [Server.refuse, List.count_nil, Nat.add_zero]
  rw [hforce]

/-- Every operation replies, whatever the settings, the disks and the faults of listeners are and
whatever else happens meanwhile, if it is resumed as often as an operation can wait. If it is refused
nothing has changed, and if it fails nothing is left but its error. -/
theorem ofEvents_outcome (settings : Settings) (events : List Event) (disk : Disk) (op : Operation)
    {later : List Event} (hlater : Session.longestOperation ≤ later.countP Event.isResume) :
    let h := ofEvents settings events
    ∃ last step reply, h.outcome? disk op later = some (last, step) ∧ step.reply = some reply ∧
      (∀ refusal, h.server.refusal? op = some refusal →
        reply = refusal ∧ reply.isSuccess = false ∧ last = h ∧ step.said = [] ∧ step.acts = []) ∧
      (h.server.refusal? op = none → reply.isSuccess = false →
        last.server.FailedWith reply.message ∧ last.opened = last.closed) := by
  intro h
  have sound : h.Sound := ofEvents_sound settings events
  cases hrefusal : h.server.refusal? op with
  | some refusal =>
    obtain ⟨hrefused, hfailed⟩ := Server.beginOperation_of_refusal hrefusal disk
    have hsame := after_refused hrefused
    refine ⟨h, h.server.refuse refusal, refusal, ?_, rfl, ?_, by simp⟩
    · simp [outcome?, hrefused, hsame, Server.refuse]
    · rintro other ⟨⟩
      exact ⟨rfl, hfailed, rfl, rfl, rfl⟩
  | none =>
    have hbegun : (h.after (.call disk op)).Sound := sound.after _
    rcases Server.beginOperation_of_accepted hrefusal disk with
      ⟨phase, hphase, hsilent⟩ | ⟨error, said, hlistening, hfail⟩
    · have hwaits : (h.after (.call disk op)).server.phase ≠ none := by
        have hnow : (h.after (.call disk op)).server.phase = some phase := hphase
        simp [hnow]
      obtain ⟨before, e, reply, hbefore, hbusy, hstep, hreply, hends⟩ :=
        exists_conclusion hbegun hwaits (Nat.le_trans (Server.stepsLeft_le _) hlater)
      refine ⟨before.after e, _, reply, ?_, hreply, by simp, ?_⟩
      · simpa [outcome?, hsilent] using hends
      · intro _ hfailed
        have hleft := hstep.failedWith hbusy hreply hfailed
        exact ⟨hleft, (hbefore.after e).opened_eq_closed hleft.listening⟩
    · let failed : Step := (h.server.fail error).afterSaying said
      have hserver : (h.after (.call disk op)).server = failed.server :=
        congrArg Step.server hfail
      have hleft : failed.server.FailedWith error.message :=
        Server.fail_failedWith hlistening error
      rw [← hserver] at hleft
      refine ⟨h.after (.call disk op), failed, .failed error, ?_, rfl, by simp, ?_⟩
      · rw [outcome?, hfail]
        rfl
      · intro _ _
        exact ⟨hleft, hbegun.opened_eq_closed hleft.listening⟩

/-- A run is restarted with settings that find no configuration: it ends, and no new one begins. -/
theorem ofEvents_outcome_strangeSettings :
    let events := smallRun ++ [.update strangeSettings]
    let waits := List.replicate 4 (Event.resume smallSurroundings)
    Session.longestOperation ≤ waits.countP Event.isResume ∧
      ∃ last step,
        (ofEvents smallSettings events).outcome? smallSite .restart waits = some (last, step) ∧
          last.server.FailedWith StartError.noConfig.message ∧ last.opened = last.closed := by
  intro events waits
  have hwaits : Session.longestOperation ≤ waits.countP Event.isResume := by decide +kernel
  refine ⟨hwaits, ?_⟩
  obtain ⟨last, step, reply, hends, hreply, _, hfails⟩ :=
    ofEvents_outcome smallSettings events smallSite .restart hwaits
  have hserver : (ofEvents smallSettings events).server =
      { (Server.run smallPlan { settings := smallSettings }).server with
        settings := strangeSettings } := by
    rw [server_concat, ofEvents_smallRun]
    rfl
  have hlook : lookUpConfig smallSite strangeSettings = .ok ⟨none, .nowhere⟩ := by cbv
  let called := (ofEvents smallSettings events).after (.call smallSite .restart)
  have hcalled : ((ofEvents smallSettings events).server.beginOperation smallSite .restart).reply =
      none := by
    rw [hserver]
    rfl
  have hresumed : (called.server.resume smallSurroundings).reply = some (.failed .noConfig) := by
    have hclosed : called.server.resume smallSurroundings =
        ((Server.beginStart smallSite { settings := strangeSettings }).afterSaying
          [.output "Preview server stopped (0 connections terminated)".toList]) := by
      show (((ofEvents smallSettings events).server.beginOperation smallSite .restart).server.resume
        smallSurroundings) = _
      rw [hserver]
      rfl
    have hbegin : (Server.beginStart smallSite { settings := strangeSettings }).reply =
        some (.failed .noConfig) := by
      simp only [Server.beginStart, hlook]
      rfl
    rw [hclosed]
    exact hbegin
  have hfirst : (ofEvents smallSettings events).outcome? smallSite .restart waits =
      some (called.after (.resume smallSurroundings),
        called.server.resume smallSurroundings) := by
    rw [outcome?, hcalled]
    show called.conclusion? (.resume smallSurroundings :: _) = _
    simp only [conclusion?, Server.meet, Event.isResume, hresumed]
    rfl
  cases hfirst.symm.trans hends
  cases hresumed.symm.trans hreply
  have hrefusal : (ofEvents smallSettings events).server.refusal? .restart = none := by
    rw [hserver]
    rfl
  exact ⟨_, _, hends, hfails hrefusal rfl⟩

end History

end SitePreview
