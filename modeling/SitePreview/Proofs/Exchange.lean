import Mathlib
import SitePreview.PlainPlatform
import SitePreview.Proofs.Answers
import SitePreview.Server.Session

namespace SitePreview

namespace Session

def sendAll (id : Nat) : List Bytes → Session → Session
  | [], s => s
  | chunk :: chunks, s => sendAll id chunks (s.send id chunk).session

/-- Opens a connection, sends all chunks and ends the input. -/
def exchange (chunks : List Bytes) (s : Session) : Session :=
  let id := s.nextConnection
  ((s.connect [] false).session.sendAll id chunks |>.endInput id).session

theorem lookup_setConnection {s : Session} {id : Nat} {old : Connection}
    (h : s.connections.lookup id = some old) (c : Connection) :
    (s.setConnection id c).connections.lookup id = some c := by
  unfold setConnection
  generalize s.connections = connections at h ⊢
  induction connections with
  | nil => simp at h
  | cons first rest ih =>
    obtain ⟨other, d⟩ := first
    by_cases hid : other = id
    · simp [hid]
    · have hother : (id == other) = false := beq_eq_false_iff_ne.mpr (Ne.symm hid)
      have hrest : rest.lookup id = some old := by simpa [List.lookup_cons, hother] using h
      simpa [List.lookup_cons, hid, hother] using ih hrest

theorem connection_eq {s : Session} {id : Nat} {c : Connection}
    (h : s.connections.lookup id = some c) : s.connection id = c := by
  simp [connection, h]

end Session

/-- What a connection has come to when octets were sent over it to a server: its handler waits and
nothing else has changed, or it is closed with all that the handler wrote. -/
inductive Heard (disk : Disk) (server : Server) (id : Nat) (ended : Bool) (octets : Bytes)
    (s : Session) : Prop where
  | waiting (sameDisk : s.disk = disk) (sameServer : s.server = server)
      (held : s.connections.lookup id = some { received := octets, ended })
      (pending : (server.handle disk ended octets).handled = .waiting)
  | closed (c : Connection) (held : s.connections.lookup id = some c) (shut : c.closed = true)
      (whole : c.aborted = false) (gone : id ∉ s.server.registry.members)
      (done : (server.handle disk ended octets).handled = .finished c.sent c.failure)

namespace Heard

variable {disk : Disk} {server : Server} {id : Nat} {octets : Bytes} {s : Session}

theorem of_serve {ended : Bool}
    (h : s.connections.lookup id = some { received := octets, ended }) :
    Heard s.disk s.server id ended octets (s.serve id).session := by
  unfold Session.serve
  simp only [Session.connection_eq h, Bool.false_eq_true, if_false]
  cases hstep : (s.server.handle s.disk ended octets).handled with
  | waiting =>
    exact .waiting rfl (Server.handle_of_waiting hstep) h hstep
  | finished written failure =>
    refine .closed _ (Session.lookup_setConnection h _) rfl rfl ?_ ?_
    · exact fun hmem => (Registry.mem_unregister.mp hmem).2 rfl
    · simpa [Connection.finish] using hstep

theorem serve_closed {c : Connection} (h : s.connections.lookup id = some c)
    (hclosed : c.closed = true) : (s.serve id).session = s := by
  simp [Session.serve, Session.connection_eq h, hclosed]

theorem send (h : Heard disk server id false octets s) (more : Bytes) :
    Heard disk server id false (octets ++ more) (s.send id more).session := by
  unfold Session.send
  cases h with
  | waiting sameDisk sameServer held pending =>
    subst sameDisk sameServer
    rw [Session.connection_eq held]
    exact of_serve (Session.lookup_setConnection held _)
  | closed c held shut whole gone done =>
    have hsame : (s.connection id).receive more = c := by
      simp [Session.connection_eq held, Connection.receive, Connection.isOpen, shut]
    have hlookup := Session.lookup_setConnection held c
    rw [hsame, serve_closed hlookup shut]
    exact .closed c hlookup shut whole gone (Server.handle_goesOn done false more)

theorem endInput (h : Heard disk server id false octets s) :
    Heard disk server id true octets (s.endInput id).session := by
  unfold Session.endInput
  cases h with
  | waiting sameDisk sameServer held pending =>
    subst sameDisk sameServer
    rw [Session.connection_eq held]
    exact of_serve (Session.lookup_setConnection held _)
  | closed c held shut whole gone done =>
    have hsame : (s.connection id).receiveEnd = c := by
      simp [Session.connection_eq held, Connection.receiveEnd, Connection.isOpen, shut]
    have hlookup := Session.lookup_setConnection held c
    have hend := Server.handle_goesOn done true []
    rw [List.append_nil] at hend
    rw [hsame, serve_closed hlookup shut]
    exact .closed c hlookup shut whole gone hend

theorem sendAll (h : Heard disk server id false octets s) (chunks : List Bytes) :
    Heard disk server id false (octets ++ chunks.flatten) (s.sendAll id chunks) := by
  induction chunks generalizing octets s with
  | nil => simpa [Session.sendAll] using h
  | cons chunk chunks ih => simpa [Session.sendAll] using ih (h.send chunk)

end Heard

/-- At the end of an exchange the connection is closed with what its handler makes of all octets. -/
theorem exchange_heard (s : Session) (chunks : List Bytes) :
    ∃ c, (s.exchange chunks).connections.lookup s.nextConnection = some c ∧ c.closed = true ∧
      c.aborted = false ∧ s.nextConnection ∉ (s.exchange chunks).server.registry.members ∧
      ((s.accept [] false).server.handle s.disk true chunks.flatten).handled =
        .finished c.sent c.failure := by
  have hopen : Heard s.disk (s.accept [] false).server s.nextConnection false []
      (s.connect [] false).session :=
    Heard.of_serve (s := s.accept [] false) (by simp [Session.accept])
  cases (hopen.sendAll chunks).endInput with
  | waiting _ _ _ pending => exact absurd pending (Server.handle_ended_ne_waiting _ _ _)
  | closed c held shut whole gone done => exact ⟨c, held, shut, whole, gone, done⟩

theorem exchange_answers_once (s : Session) (chunks : List Bytes) :
    let c := (s.exchange chunks).connection s.nextConnection
    c.closed = true ∧ c.aborted = false ∧
      s.nextConnection ∉ (s.exchange chunks).server.registry.members ∧
      match RequestHead.read RequestHead.defaultLineLimit true chunks.flatten with
      | .waiting => False
      | .silent => chunks.flatten = [] ∧ c.sent = [] ∧ c.failure = none
      | .refused _ => c.sent = Response.badRequest.render false ∧ c.failure = none
      | .head head _ =>
        match s.server.config with
        | none => c.sent = Response.serverError.render (isHeadOnly head.method) ∧ c.failure = none
        | some config =>
          match Target.path head.target with
          | .error fault => c.sent = [] ∧ c.failure = some fault
          | .ok path =>
            c.sent = (Routed.response s.disk ⟨config, pickLocation config.locations path, path⟩).render
              (isHeadOnly head.method) ∧ c.failure = none := by
  obtain ⟨c, hlookup, hclosed, hwhole, hgone, hdone⟩ := exchange_heard s chunks
  simp only [Session.connection_eq hlookup]
  refine ⟨hclosed, hwhole, hgone, ?_⟩
  unfold Server.handle at hdone
  split
  next hread => exact RequestHead.read_ended_ne_waiting _ _ hread
  next hread =>
    simp only [hread, Handled.finished.injEq] at hdone
    exact ⟨RequestHead.read_eq_silent.mp hread, hdone.1.symm, hdone.2.symm⟩
  next fault hread =>
    simp only [hread, Handled.finished.injEq] at hdone
    exact ⟨hdone.1.symm, hdone.2.symm⟩
  next head rest hread =>
    simp only [hread, Server.handleHead_handled, Server.handledHead, responseTo,
      Session.accept] at hdone
    cases hconfig : s.server.config with
    | none =>
      simp only [hconfig, Handled.finished.injEq] at hdone
      exact ⟨hdone.1.symm, hdone.2.symm⟩
    | some config =>
      cases hpath : Target.path head.target with
      | error fault =>
        simp only [hconfig, hpath, Except.map, Handled.finished.injEq] at hdone
        exact ⟨hdone.1.symm, hdone.2.symm⟩
      | ok path =>
        simp only [hconfig, hpath, Except.map, Handled.finished.injEq] at hdone
        exact ⟨hdone.1.symm, hdone.2.symm⟩

def emptySite : Session where
  platform := Platform.plain
  disk := .ofTop (.directory [])
  server := {
    settings := {}
    listening := true
    config := some { documentRoot := ['/'], indexFiles := defaultIndexFiles, baseDir := ['/'] } }
  clock := []

/-- A target with half a pair of brackets leaves its head without a response. -/
theorem exchange_without_answer : ¬∀ (s : Session) (chunks : List Bytes), chunks.flatten ≠ [] →
    ∃ response headOnly, ((s.exchange chunks).connection s.nextConnection).sent =
      Response.render response headOnly := by
  intro h
  have hsent : ((emptySite.exchange [Latin.encode "GET http://[ HTTP/1.1\r\n\r\n".toList]).connection
      emptySite.nextConnection).sent = [] := by cbv
  obtain ⟨response, headOnly, hanswer⟩ :=
    h emptySite [Latin.encode "GET http://[ HTTP/1.1\r\n\r\n".toList] (by decide)
  exact response.render_ne_nil headOnly (hanswer.symm.trans hsent)

end SitePreview
