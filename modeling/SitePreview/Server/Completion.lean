import SitePreview.Server.History
import SitePreview.Server.Interleaving

namespace SitePreview

/-- How many steps an operation may still take from a phase. -/
def Phase.stepsLeft : Phase → Nat
  | closing restarting _ => if restarting then 4 else 1
  | reading _ => 3
  | listening _ => 2
  | naming _ => 1

/-- The listeners that are open after some acts, of so many before. -/
def ListenerAct.openAfter (before : Nat) (acts : List ListenerAct) : Nat :=
  acts.foldl (fun listeners act => match act with
    | .opened => listeners + 1
    | .closed => listeners - 1) before

namespace Server

def stepsLeft (s : Server) : Nat := (s.phase.map Phase.stepsLeft).getD 0

theorem stepsLeft_beginStart (disk : Disk) {s : Server} (hphase : s.phase = none) :
    (s.beginStart disk).server.stepsLeft ≤ 3 := by
  unfold beginStart
  split
  · simp [refuse, stepsLeft, hphase]
  · dsimp only
    split
    · exact Nat.zero_le 3
    · split
      · exact Nat.zero_le 3
      · exact Nat.le_refl 3

theorem stepsLeft_resume (w : Surroundings) {s : Server} (hphase : s.phase ≠ none) :
    (s.resume w).server.stepsLeft < s.stepsLeft := by
  obtain ⟨phase, hphase⟩ := Option.ne_none_iff_exists'.mp hphase
  have hnow : s.stepsLeft = phase.stepsLeft := by simp [stepsLeft, hphase]
  rw [hnow]
  unfold resume
  rw [hphase]
  cases phase with
  | closing restarting terminated =>
    cases restarting with
    | false => exact Nat.one_pos
    | true => exact Nat.lt_succ_of_le (stepsLeft_beginStart w.disk rfl)
  | reading path =>
    dsimp only [afterReading]
    split
    · split <;> exact Nat.succ_pos 2
    · dsimp only [Step.afterSaying]
      split
      · split <;> exact Nat.succ_pos 2
      · exact Nat.succ_pos 2
      · exact Nat.lt_succ_self 2
  | listening plan =>
    dsimp only [afterListening]
    split
    · exact Nat.succ_pos 1
    · exact Nat.lt_succ_self 1
    · exact Nat.succ_pos 1
    · exact Nat.succ_pos 1
  | naming port => exact Nat.one_pos

end Server

/-- Goes on with an operation from what it has done so far until it replies. What surrounds it depends
on how many listeners the server has open itself, which were so many before the operation. -/
def Step.toEnd (around : Nat → Surroundings) (before : Nat) (step : Step) : Step :=
  if step.reply = none ∧ step.server.phase ≠ none then
    (step.followedBy
      (step.server.resume (around (ListenerAct.openAfter before step.acts)))).toEnd around before
  else step
termination_by step.server.stepsLeft
decreasing_by
  rename_i h
  exact Server.stepsLeft_resume _ h.2

namespace Server

/-- An operation with nothing in between. -/
def carryOut (around : Nat → Surroundings) (op : Operation) (s : Server) : Step :=
  (s.beginOperation (around s.listening.toNat).disk op).toEnd around s.listening.toNat

/-- What a call is refused with, if it is not to begin anything. -/
def refusal? (op : Operation) (s : Server) : Option Reply :=
  if s.phase.isSome then some .busy
  else match op with
    | .start => if s.listening then some .alreadyRunning else none
    | .stop => if s.listening then none else some .notRunning
    | .restart => none

end Server

def Event.isResume : Event → Bool
  | resume _ => true
  | _ => false

namespace History

/-- The end of the operation under way, with its last step, while other things happen. -/
def conclusion? : List Event → History → Option (History × Step)
  | [], _ => none
  | e :: later, h =>
    let step := h.server.meet e
    if e.isResume && step.reply.isSome then some (h.after e, step)
    else (h.after e).conclusion? later

/-- The end of an operation that is called, with its last step, if it comes while some things happen. -/
def outcome? (disk : Disk) (op : Operation) (later : List Event) (h : History) :
    Option (History × Step) :=
  let step := h.server.beginOperation disk op
  let begun := h.after (.call disk op)
  if step.reply.isSome then some (begun, step) else begun.conclusion? later

end History

end SitePreview
