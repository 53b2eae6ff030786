import SitePreview.Proofs.Fallible
import SitePreview.Server.History
import SitePreview.Server.Session

namespace SitePreview

namespace Server

/-- Some events lead from one server to another. -/
def LeadsTo (s t : Server) : Prop :=
  ∃ events : List Event, events.foldl (fun s e => (s.meet e).server) s = t

variable {s t u : Server}

theorem LeadsTo.refl (s : Server) : s.LeadsTo s := ⟨[], rfl⟩

theorem LeadsTo.trans (hst : s.LeadsTo t) (htu : t.LeadsTo u) : s.LeadsTo u := by
  obtain ⟨before, rfl⟩ := hst
  obtain ⟨later, rfl⟩ := htu
  exact ⟨before ++ later, by rw [List.foldl_append]⟩

theorem leadsTo_meet (s : Server) (e : Event) : s.LeadsTo (s.meet e).server := ⟨[e], rfl⟩

theorem leadsTo_iff_history {settings : Settings} :
    LeadsTo { settings } s ↔ ∃ events, (History.ofEvents settings events).server = s := by
  have hserver (h : History) (events : List Event) : (events.foldl History.after h).server =
      events.foldl (fun s e => (s.meet e).server) h.server := by
    induction events generalizing h with
    | nil => rfl
    | cons e events ih => exact ih (h.after e)
  simp only [LeadsTo, History.ofEvents, hserver, History.fresh]

theorem leadsTo_dispatch {disk : Disk} {method target : Text} {step : RequestStep}
    (h : s.dispatch disk method target = .ok step) : s.LeadsTo step.server := by
  have harrived := s.leadsTo_meet (.arrive method target)
  unfold dispatch at h
  cases hfound : s.arrive method target with
  | error fault => simp [hfound] at h
  | ok found =>
    obtain ⟨t, said, arrival⟩ := found
    simp only [meet, hfound] at harrived
    cases arrival with
    | answered response =>
      simp only [hfound, Except.ok.injEq] at h
      subst h
      exact harrived
    | accepted request =>
      simp only [hfound, Except.ok.injEq] at h
      subst h
      exact harrived.trans (t.leadsTo_meet (.finish disk (request.resolved disk)))

theorem leadsTo_handle (disk : Disk) (ended : Bool) (octets : Bytes) (s : Server) :
    s.LeadsTo (s.handle disk ended octets).server := by
  unfold handle
  split
  · exact .refl s
  · exact .refl s
  · exact .refl s
  next head _ _ =>
    unfold handleHead
    split
    next step hstep => exact leadsTo_dispatch hstep
    next => exact .refl s

end Server

namespace Session

variable (s : Session)

theorem leadsTo_serve (id : Nat) : s.server.LeadsTo (s.serve id).session.server := by
  have hhandled := s.server.leadsTo_handle s.disk (s.connection id).ended (s.connection id).received
  unfold serve
  dsimp only
  split
  · exact .refl _
  · split
    · exact hhandled
    · exact hhandled.trans (Server.leadsTo_meet _ (.disconnect id))

theorem leadsTo_connect (received : Bytes) (ended : Bool) :
    s.server.LeadsTo (s.connect received ended).session.server :=
  (s.server.leadsTo_meet (.connect s.nextConnection)).trans
    ((s.accept received ended).leadsTo_serve s.nextConnection)

theorem leadsTo_send (id : Nat) (octets : Bytes) :
    s.server.LeadsTo (s.send id octets).session.server :=
  (s.setConnection id _).leadsTo_serve id

theorem leadsTo_endInput (id : Nat) : s.server.LeadsTo (s.endInput id).session.server :=
  (s.setConnection id _).leadsTo_serve id

theorem leadsTo_beginCalls (calls : List Call) :
    s.server.LeadsTo (beginCalls calls s).session.server := by
  induction calls generalizing s with
  | nil => exact .refl _
  | cons call calls ih =>
    have hfirst : s.server.LeadsTo (s.beginCall call).session.server := by
      cases call with
      | remove path => exact .refl _
      | operation op => exact s.server.leadsTo_meet (.call s.disk op)
    exact hfirst.trans (ih (s.beginCall call).session)

theorem leadsTo_serveTerminated (ids : List Nat) :
    s.server.LeadsTo (serveTerminated ids s).session.server := by
  induction ids generalizing s with
  | nil => exact .refl _
  | cons id ids ih => exact (s.leadsTo_serve id).trans (ih (s.serve id).session)

theorem leadsTo_settle (steps : Nat) : s.server.LeadsTo (settle steps s).session.server := by
  induction steps generalizing s with
  | zero => exact .refl _
  | succ steps ih =>
    unfold settle
    split
    · exact .refl _
    · have hresumed := s.server.leadsTo_meet (.resume s.surroundings)
      have hserved := s.resume.session.leadsTo_serveTerminated s.resume.session.terminatedIds
      exact (hresumed.trans hserved).trans (ih _)

theorem leadsTo_perform (calls : List Call) :
    s.server.LeadsTo (s.perform calls).session.server :=
  (s.leadsTo_beginCalls calls).trans (leadsTo_settle _ longestOperation)

theorem leadsTo_dispatch {s : Session} {method target : Text} {turn : Turn Response}
    (h : s.dispatch method target = .ok turn) : s.server.LeadsTo turn.session.server := by
  obtain ⟨step, hstep, rfl⟩ := exceptMap_eq_ok.mp h
  exact Server.leadsTo_dispatch hstep

end Session

end SitePreview
