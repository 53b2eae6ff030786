import SitePreview.PlainPlatform
import SitePreview.Proofs.OperationSteps
import SitePreview.Server.Interleaving

namespace SitePreview

/-- The acts of a listener from one moment to another, at each of which it is open or not. -/
inductive ListenerActs : Bool → List ListenerAct → Bool → Prop
  | nil {isOpen} : ListenerActs isOpen [] isOpen
  | opened {acts last} : ListenerActs true acts last → ListenerActs false (.opened :: acts) last
  | closed {acts last} : ListenerActs false acts last → ListenerActs true (.closed :: acts) last

namespace ListenerActs

variable {first middle last : Bool} {acts more : List ListenerAct}

theorem append (h : ListenerActs first acts middle) (hmore : ListenerActs middle more last) :
    ListenerActs first (acts ++ more) last := by
  induction h with
  | nil => exact hmore
  | opened _ ih => exact .opened (ih hmore)
  | closed _ ih => exact .closed (ih hmore)

/-- What has been opened and not closed is one listener at most, however far the acts have come. -/
theorem open_le_one (h : ListenerActs first acts last) {done later : List ListenerAct}
    (hacts : acts = done ++ later) :
    first.toNat + done.count .opened ≤ done.count .closed + 1 := by
  induction h generalizing done with
  | @nil isOpen =>
    obtain ⟨rfl, rfl⟩ := List.append_eq_nil_iff.mp hacts.symm
    cases isOpen <;> simp
  | opened _ ih =>
    cases done with
    | nil => simp
    | cons act done =>
      obtain ⟨rfl, hrest⟩ := List.cons_eq_cons.mp hacts
      simpa [Nat.add_comm] using ih hrest
  | closed _ ih =>
    cases done with
    | nil => simp
    | cons act done =>
      obtain ⟨rfl, hrest⟩ := List.cons_eq_cons.mp hacts
      have := ih hrest
      simp at this ⊢
      omega

end ListenerActs

namespace Server.Advances

variable {s : Server} {step : Step}

theorem listenerActs (h : s.Advances step) :
    ListenerActs s.listening step.acts step.server.listening := by
  cases h with
  | closing _ hlistening =>
    rw [hlistening]
    exact .closed .nil
  | serving hlistening =>
    rw [hlistening]
    exact .opened .nil
  | refused | stopped | reading | listening | naming | failed => exact .nil

end Server.Advances

namespace Caller

/-- A call that is over has its reply, and of a refused one nothing else is left. -/
structure Ended (c : Caller) : Prop where
  phase : c.phase = none
  replied : c.reply ≠ none
  refused : c.accepted = false → c = .refused c.disk c.op

theorem refused_ended (disk : Disk) (op : Operation) : (refused disk op).Ended :=
  ⟨rfl, nofun, fun _ => rfl⟩

theorem alone_begun (disk : Disk) (op : Operation) (step : Step) (s : Server) :
    (begun disk op step).alone s = s.beginOperation disk op := rfl

theorem alone_goOn (c : Caller) (w : Surroundings) (step : Step) (s : Server) :
    (c.goOn w step).alone s = (c.alone s).followedBy ((c.alone s).server.resume w) := by
  simp only [alone, goOn, List.foldl_append, List.foldl_cons, List.foldl_nil]

theorem inTurn_concat (callers : List Caller) (c : Caller) (s : Server) :
    inTurn (callers ++ [c]) s = takeTurn (inTurn callers s) c := by
  simp only [inTurn, List.foldl_append, List.foldl_cons, List.foldl_nil]

/-- Callers of which all are over, or all but one; those that came after it were refused. -/
inductive InOrder : List Caller → Option Phase → Prop
  | free {callers} : (∀ c ∈ callers, c.Ended) → InOrder callers none
  | held {before c phase after} : (∀ b ∈ before, b.Ended) → c.accepted = true → c.phase = some phase →
      c.reply = none → (∀ a ∈ after, a = refused a.disk a.op) →
      InOrder (before ++ c :: after) (some phase)

namespace InOrder

variable {callers : List Caller} {phase : Option Phase}

theorem of_refused {after : List Caller} (h : ∀ a ∈ after, a = refused a.disk a.op) {a : Caller}
    (ha : a ∈ after) : a.Ended := by
  rw [h a ha]
  exact refused_ended a.disk a.op

theorem filter_refused {after : List Caller} (h : ∀ a ∈ after, a = refused a.disk a.op) :
    after.filter accepted = [] := by
  refine List.filter_eq_nil_iff.mpr fun a ha => ?_
  rw [h a ha]
  exact Bool.false_ne_true

theorem filter_middle {before after : List Caller} {c : Caller} (haccepted : c.accepted = true)
    (hafter : ∀ a ∈ after, a = refused a.disk a.op) :
    (before ++ c :: after).filter accepted = before.filter accepted ++ [c] := by
  rw [List.filter_append, List.filter_cons_of_pos haccepted, filter_refused hafter]

theorem ended (h : InOrder callers none) : ∀ c ∈ callers, c.Ended := by
  cases h with
  | free hended => exact hended

theorem findSome?_ended (h : ∀ c ∈ callers, c.Ended) : callers.findSome? Caller.phase = none :=
  List.findSome?_eq_none_iff.mpr fun c hc => (h c hc).phase

theorem findSome?_phase (h : InOrder callers phase) : callers.findSome? Caller.phase = phase := by
  cases h with
  | free hended => exact findSome?_ended hended
  | held hbefore _ hphase =>
    rw [List.findSome?_append, findSome?_ended hbefore, List.findSome?_cons, hphase]
    rfl

theorem ended_or_waits (h : InOrder callers phase) {c : Caller} (hc : c ∈ callers) :
    c.Ended ∨ c.accepted = true ∧ c.phase ≠ none ∧ c.reply = none := by
  cases h with
  | free hended => exact .inl (hended c hc)
  | held hbefore haccepted hphase hreply hafter =>
    rcases List.mem_append.mp hc with hc | hc
    · exact .inl (hbefore c hc)
    rcases List.mem_cons.mp hc with rfl | hc
    · exact .inr ⟨haccepted, by simp [hphase], hreply⟩
    · exact .inl (of_refused hafter hc)

theorem ended_of_mem_dropLast (h : InOrder callers phase) {c : Caller}
    (hc : c ∈ (callers.filter accepted).dropLast) : c.Ended := by
  cases h with
  | free hended => exact hended c (List.mem_filter.mp ((List.dropLast_sublist _).subset hc)).1
  | held hbefore haccepted _ _ hafter =>
    rw [filter_middle haccepted hafter, List.dropLast_concat] at hc
    exact hbefore c (List.mem_filter.mp hc).1

theorem filter_waiting_ended (h : ∀ c ∈ callers, c.Ended) :
    callers.filter (·.phase.isSome) = [] := by
  refine List.filter_eq_nil_iff.mpr fun c hc => ?_
  rw [(h c hc).phase]
  exact Bool.false_ne_true

theorem length_waiting (h : InOrder callers phase) :
    (callers.filter (·.phase.isSome)).length = phase.isSome.toNat := by
  cases h with
  | free hended => rw [filter_waiting_ended hended]; rfl
  | held hbefore _ hphase _ hafter =>
    rw [List.filter_append, List.filter_cons_of_pos (by simp [hphase]),
      filter_waiting_ended hbefore, filter_waiting_ended fun a ha => of_refused hafter ha]
    rfl

theorem concat_refused (h : InOrder callers phase) (disk : Disk) (op : Operation) :
    InOrder (callers ++ [refused disk op]) phase := by
  cases h with
  | free hended =>
    refine .free fun c hc => ?_
    rcases List.mem_append.mp hc with hc | hc
    · exact hended c hc
    · rw [List.mem_singleton.mp hc]
      exact refused_ended disk op
  | held hbefore haccepted hphase hreply hafter =>
    rw [List.append_assoc, List.cons_append]
    refine .held hbefore haccepted hphase hreply fun a ha => ?_
    rcases List.mem_append.mp ha with ha | ha
    · exact hafter a ha
    · rw [List.mem_singleton.mp ha]
      rfl

theorem waiting (h : InOrder callers phase) {i : Nat} {c : Caller} (hi : callers[i]? = some c)
    (hwaits : c.phase ≠ none) : ∃ before after, callers = before ++ c :: after ∧ i = before.length ∧
      phase = c.phase ∧ (∀ b ∈ before, b.Ended) ∧ c.accepted = true ∧ c.reply = none ∧
      ∀ a ∈ after, a = refused a.disk a.op := by
  cases h with
  | free hended => exact absurd (hended c (List.mem_of_getElem? hi)).phase hwaits
  | @held before d _ after hbefore haccepted hphase hreply hafter =>
    rcases Nat.lt_trichotomy i before.length with hlt | heq | hgt
    · rw [List.getElem?_append_left hlt] at hi
      exact absurd (hbefore c (List.mem_of_getElem? hi)).phase hwaits
    · rw [heq, List.getElem?_append_right (Nat.le_refl _), Nat.sub_self] at hi
      obtain rfl : d = c := Option.some.inj hi
      exact ⟨before, after, rfl, heq, hphase.symm, hbefore, haccepted, hreply, hafter⟩
    · obtain ⟨k, hk⟩ : ∃ k, i - before.length = k + 1 := ⟨i - before.length - 1, by omega⟩
      rw [List.getElem?_append_right (by omega), hk, List.getElem?_cons_succ] at hi
      exact absurd (of_refused hafter (List.mem_of_getElem? hi)).phase hwaits

/-- The caller that has taken a step is over, or it still holds the others up. -/
theorem of_step {before after : List Caller} {c : Caller} (hbefore : ∀ b ∈ before, b.Ended)
    (haccepted : c.accepted = true)
    (hstep : (∃ phase, c.phase = some phase ∧ c.reply = none) ∨
      ∃ reply, c.phase = none ∧ c.reply = some reply)
    (hafter : ∀ a ∈ after, a = refused a.disk a.op) : InOrder (before ++ c :: after) c.phase := by
  rcases hstep with ⟨phase, hphase, hreply⟩ | ⟨reply, hphase, hreply⟩
  · rw [hphase]
    exact .held hbefore haccepted hphase hreply hafter
  · rw [hphase]
    refine .free fun d hd => ?_
    rcases List.mem_append.mp hd with hd | hd
    · exact hbefore d hd
    rcases List.mem_cons.mp hd with rfl | hd
    · exact ⟨hphase, by simp [hreply], by simp [haccepted]⟩
    · exact of_refused hafter hd

end InOrder

end Caller

namespace SharedServer

/-- What has become of a shared server, and of its callers, is what the accepted ones do in turn. -/
structure Serial (start : Server) (s : SharedServer) (phase : Option Phase) : Prop where
  bare : s.server.phase = none
  order : Caller.InOrder s.callers phase
  locked : s.locked = phase.isSome
  silent : phase ≠ none → s.server.listening = false
  turns : Caller.inTurn s.accepted start = {
    server := { s.server with phase }
    said := s.said
    acts := s.acts
    replies := s.accepted.map Caller.reply }
  acts : ListenerActs start.listening s.acts s.server.listening

variable {start : Server} {s : SharedServer} {phase : Option Phase}

theorem accepted_concat (s : SharedServer) (c : Caller) :
    (s.callers ++ [c]).filter Caller.accepted = s.accepted ++ [c].filter Caller.accepted :=
  List.filter_append s.callers [c]

theorem phase_none_eq {t : Server} (h : t.phase = none) : ({ t with phase := none } : Server) = t := by
  rw [← h]

theorem new_serial (hidle : start.phase = none) : Serial start { server := start } none where
  bare := hidle
  order := .free (List.forall_mem_nil _)
  locked := rfl
  silent := fun h => absurd rfl h
  turns := by
    rw [phase_none_eq hidle]
    rfl
  acts := .nil

theorem Serial.call_refused (h : Serial start s phase) (hlocked : s.locked = true) (disk : Disk)
    (op : Operation) : Serial start (s.call disk op) phase := by
  rw [SharedServer.call, if_pos hlocked]
  have haccepted : SharedServer.accepted { s with callers := s.callers ++ [.refused disk op] } =
      s.accepted := by
    rw [SharedServer.accepted, accepted_concat]
    exact List.append_nil _
  refine ⟨h.bare, h.order.concat_refused disk op, h.locked, h.silent, ?_, h.acts⟩
  rw [haccepted]
  exact h.turns

theorem Serial.call_begins (h : Serial start s none) (disk : Disk) (op : Operation) :
    Serial start (s.call disk op) (s.server.beginOperation disk op).server.phase := by
  have hfree : s.locked = false := h.locked
  rw [SharedServer.call, if_neg (by simp [hfree])]
  have hstep := Server.beginOperation_advances h.bare disk op
  generalize hbegun : s.server.beginOperation disk op = step at hstep ⊢
  have haccepted : SharedServer.accepted (s.afterStep step step.server.phase.isSome
      (s.callers ++ [.begun disk op step])) = s.accepted ++ [.begun disk op step] := by
    rw [SharedServer.accepted]
    exact accepted_concat s _
  refine ⟨rfl, ?_, rfl, hstep.silent_of_waits, ?_, h.acts.append hstep.listenerActs⟩
  · exact Caller.InOrder.of_step h.order.ended rfl hstep.waits_or_replies (List.forall_mem_nil _)
  · have hturns := h.turns
    rw [phase_none_eq h.bare] at hturns
    rw [haccepted, Caller.inTurn_concat, hturns, List.map_append]
    simp only [Caller.takeTurn, Caller.alone_begun, hbegun]
    rfl

/-- A caller that goes on does in its turn what it has done, and then the step. -/
theorem takeTurn_goOn {turns : Turns} {c : Caller} {t : Server} {said : List Message}
    {acts : List ListenerAct} {replies : List (Option Reply)} (w : Surroundings)
    (h : Caller.takeTurn turns c = ⟨t, said, acts, replies ++ [none]⟩) :
    Caller.takeTurn turns (c.goOn w (t.resume w)) = {
      server := (t.resume w).server
      said := said ++ (t.resume w).said
      acts := acts ++ (t.resume w).acts
      replies := replies ++ [(t.resume w).reply] } := by
  simp only [Caller.takeTurn, Turns.mk.injEq] at h
  obtain ⟨hserver, hsaid, hacts, hreplies⟩ := h
  obtain ⟨hearlier, hnone⟩ := List.append_inj' hreplies rfl
  have hreply : (c.alone turns.server).reply = none := (List.cons.inj hnone).1
  simp only [Caller.takeTurn, Caller.alone_goOn, Step.followedBy, hserver, hreply, hearlier,
    ← List.append_assoc, hsaid, hacts, Option.none_or]

theorem Serial.resume_waiting (h : Serial start s phase) {i : Nat} {c : Caller} {waiting : Phase}
    (hi : s.callers[i]? = some c) (hwaiting : c.phase = some waiting) (w : Surroundings) :
    Serial start (s.resume i w) (({ s.server with phase := some waiting } : Server).resume w).server.phase ∧
      phase = some waiting := by
  obtain ⟨before, after, hcallers, rfl, hphase, hbefore, haccepted, hreply, hafter⟩ :=
    h.order.waiting hi (by simp [hwaiting])
  rw [hwaiting] at hphase
  subst hphase
  let t : Server := { s.server with phase := some waiting }
  have hsilent : t.listening = false := h.silent (Option.some_ne_none waiting)
  have hstep : t.Advances (t.resume w) := Server.resume_advances hsilent rfl w
  have hresume : s.resume before.length w = s.afterStep (t.resume w)
      (s.locked && (t.resume w).server.phase.isSome) (before ++ c.goOn w (t.resume w) :: after) := by
    have hset : s.callers.set before.length (c.goOn w (t.resume w)) =
        before ++ c.goOn w (t.resume w) :: after := by
      rw [hcallers, List.set_append_right before.length _ (Nat.le_refl _), Nat.sub_self,
        List.set_cons_zero]
    rw [← hset, SharedServer.resume, hi]
    dsimp only
    rw [hwaiting]
  have hold : s.accepted = before.filter Caller.accepted ++ [c] := by
    rw [SharedServer.accepted, hcallers, Caller.InOrder.filter_middle haccepted hafter]
  have hnew : (s.resume before.length w).accepted =
      before.filter Caller.accepted ++ [c.goOn w (t.resume w)] := by
    rw [hresume]
    exact Caller.InOrder.filter_middle haccepted hafter
  have hlocked : s.locked = true := h.locked
  have hturns := h.turns
  rw [hold, Caller.inTurn_concat, List.map_append, List.map_singleton, hreply] at hturns
  refine ⟨⟨?_, ?_, ?_, ?_, ?_, ?_⟩, rfl⟩
  · rw [hresume]
    rfl
  · rw [hresume]
    exact Caller.InOrder.of_step hbefore haccepted hstep.waits_or_replies hafter
  · rw [hresume, hlocked, Bool.true_and]
    rfl
  · rw [hresume]
    exact hstep.silent_of_waits
  · rw [hnew, Caller.inTurn_concat, takeTurn_goOn w hturns, hresume, List.map_append]
    rfl
  · rw [hresume]
    exact h.acts.append hstep.listenerActs

theorem Serial.resume (h : Serial start s phase) (i : Nat) (w : Surroundings) :
    ∃ next, Serial start (s.resume i w) next := by
  cases hi : s.callers[i]? with
  | none =>
    refine ⟨phase, ?_⟩
    rwa [SharedServer.resume, hi]
  | some c =>
    cases hwaiting : c.phase with
    | none =>
      refine ⟨phase, ?_⟩
      rw [SharedServer.resume, hi]
      dsimp only
      rwa [hwaiting]
    | some waiting => exact ⟨_, (h.resume_waiting hi hwaiting w).1⟩

theorem Serial.after (h : Serial start s phase) (move : Move) :
    ∃ next, Serial start (s.after move) next := by
  cases move with
  | resume i w => exact h.resume i w
  | call disk op =>
    cases phase with
    | none => exact ⟨_, h.call_begins disk op⟩
    | some waiting => exact ⟨_, h.call_refused h.locked disk op⟩

theorem ofMoves_serial (hidle : start.phase = none) (moves : List Move) :
    ∃ phase, Serial start (ofMoves start moves) phase := by
  have hrun (s : SharedServer) (phase : Option Phase) (h : Serial start s phase) :
      ∃ next, Serial start (moves.foldl SharedServer.after s) next := by
    induction moves generalizing s phase with
    | nil => exact ⟨phase, h⟩
    | cons move moves ih =>
      obtain ⟨next, hnext⟩ := h.after move
      exact ih _ next hnext
  exact hrun _ none (new_serial hidle)

theorem Serial.joined (h : Serial start s phase) : s.joined = { s.server with phase } := by
  rw [SharedServer.joined, h.order.findSome?_phase]

/-- Operations are serialised. However calls are made and resumed, the lock is held just while one call
waits and no other does, a call that finds it taken is refused at once and changes nothing, all that is
done, said and replied is what the accepted calls do one after the other, and there are never two
listeners. -/
theorem ofMoves_serialised (start : Server) (hidle : start.phase = none) (moves : List Move) :
    let s := ofMoves start moves
    (s.callers.filter (·.phase.isSome)).length = s.locked.toNat ∧
      (∀ disk op, s.locked = true →
        s.after (.call disk op) = { s with callers := s.callers ++ [.refused disk op] }) ∧
      (∀ disk op, s.locked = false → ∃ c, c.op = op ∧ c.disk = disk ∧ c.accepted = true ∧
        (s.after (.call disk op)).callers = s.callers ++ [c]) ∧
      (∀ c ∈ s.callers, c.accepted = false → c = .refused c.disk c.op) ∧
      (∀ c ∈ s.callers, c.phase = none ↔ c.reply ≠ none) ∧
      (∀ c ∈ s.accepted.dropLast, c.phase = none) ∧
      Caller.inTurn s.accepted start = {
        server := s.joined
        said := s.said
        acts := s.acts
        replies := s.accepted.map Caller.reply } ∧
      ∀ done later, s.acts = done ++ later →
        start.listening.toNat + done.count .opened ≤ done.count .closed + 1 := by
  intro s
  obtain ⟨phase, h⟩ := ofMoves_serial hidle moves
  refine ⟨?_, ?_, ?_, ?_, ?_, ?_, ?_, ?_⟩
  · rw [h.order.length_waiting, h.locked]
  · intro disk op hlocked
    exact if_pos hlocked
  · intro disk op hfree
    refine ⟨.begun disk op (s.server.beginOperation disk op), rfl, rfl, rfl, ?_⟩
    show (s.call disk op).callers = _
    rw [SharedServer.call, if_neg (by simp [hfree])]
    rfl
  · intro c hc hrefused
    rcases h.order.ended_or_waits hc with hended | ⟨haccepted, _⟩
    · exact hended.refused hrefused
    · simp [hrefused] at haccepted
  · intro c hc
    rcases h.order.ended_or_waits hc with hended | ⟨_, hphase, hreply⟩
    · exact iff_of_true hended.phase hended.replied
    · exact iff_of_false hphase (not_not_intro hreply)
  · intro c hc
    exact (h.order.ended_of_mem_dropLast hc).phase
  · rw [h.turns, h.joined]
  · intro done later hacts
    exact h.acts.open_le_one hacts

/-- A start that comes while a stop waits for its listener to close. -/
def crossedMoves (disk : Disk) : List Move :=
  [.call disk .stop, .call disk .start, .resume 0 { platform := Platform.plain, disk }]

theorem ofMoves_serialised_crossedMoves :
    let disk := Disk.ofTop (.directory [])
    let start : Server := { settings := {}, listening := true }
    let s := ofMoves start (crossedMoves disk)
    s.callers.map Caller.reply = [some .stopped, some .busy] ∧
      (s.callers.filter (·.phase.isSome)).length = 0 ∧
      (Caller.inTurn s.accepted start).acts = [.closed] ∧
      (Caller.inTurn s.accepted start).replies = [some .stopped] := by
  intro disk start s
  have hlocked : s.locked = false := by decide +kernel
  have hreplies : s.callers.map Caller.reply = [some .stopped, some .busy] := by decide +kernel
  have haccepted : s.accepted.map Caller.reply = [some .stopped] := by decide +kernel
  have hacts : s.acts = [.closed] := by decide +kernel
  obtain ⟨hwaiting, _, _, _, _, _, hturns, _⟩ := ofMoves_serialised start rfl (crossedMoves disk)
  refine ⟨hreplies, ?_, ?_, ?_⟩
  · rw [hwaiting, hlocked]
    rfl
  · rw [hturns]
    exact hacts
  · rw [hturns]
    exact haccepted

end SharedServer

end SitePreview
