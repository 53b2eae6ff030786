import SitePreview.Files.Change
import SitePreview.Server.Connection

namespace SitePreview

structure Session where
  platform : Platform
  disk : Disk
  server : Server
  clock : Text
  /-- The newest first. -/
  connections : List (Nat × Connection) := []
  nextConnection : Nat := 0
  listenFault : Option ListenFault := none
  sockets : SocketTable := .sockets []
  binds : List (Text × Nat) := []

/-- What is asked of a session at once with other calls. -/
inductive Call where
  | operation (op : Operation)
  | remove (path : Text)
  deriving DecidableEq, Repr

inductive CallResult where
  | removed
  | replied (reply : Reply)
  | waiting
  deriving DecidableEq, Repr

structure Turn (α : Type) where
  session : Session
  said : List Message := []
  result : α

namespace Session

def connection (s : Session) (id : Nat) : Connection := (s.connections.lookup id).getD {}

def setConnection (s : Session) (id : Nat) (c : Connection) : Session :=
  { s with connections := s.connections.map fun p => if p.1 = id then (id, c) else p }

def surroundings (s : Session) : Surroundings where
  platform := s.platform
  disk := s.disk
  sockets := s.sockets
  listenFault := s.listenFault
  clock := s.clock

def serve (id : Nat) (s : Session) : Turn Unit :=
  let c := s.connection id
  if c.closed then { session := s, result := () }
  else
    let step := s.server.handle s.disk c.ended c.received
    match step.handled with
    | .waiting => { session := { s with server := step.server }, said := step.said, result := () }
    | .finished written failure =>
      let registry := step.server.registry.unregister id
      let server := { step.server with registry }
      { session := { s with server }.setConnection id (c.finish written failure)
        said := step.said
        result := () }

/-- Registers a new connection, whose handler has not begun. -/
def accept (received : Bytes) (ended : Bool) (s : Session) : Session :=
  let id := s.nextConnection
  let fresh : Connection := { received, ended }
  { s with
    server := { s.server with registry := s.server.registry.register id }
    connections := (id, fresh) :: s.connections
    nextConnection := id + 1 }

def connect (received : Bytes) (ended : Bool) (s : Session) : Turn Nat :=
  let turn := (s.accept received ended).serve s.nextConnection
  { session := turn.session, said := turn.said, result := s.nextConnection }

def send (id : Nat) (octets : Bytes) (s : Session) : Turn Unit :=
  (s.setConnection id ((s.connection id).receive octets)).serve id

def endInput (id : Nat) (s : Session) : Turn Unit :=
  (s.setConnection id ((s.connection id).receiveEnd)).serve id

/-- An open connection that is no longer registered has been terminated. -/
def markTerminated (s : Session) : Session :=
  { s with connections := s.connections.map fun (id, c) =>
      if c.closed || s.server.registry.members.contains id then (id, c) else (id, c.terminate) }

def beginCall (s : Session) : Call → Turn CallResult
  | .remove path => { session := { s with disk := s.disk.remove path }, result := .removed }
  | .operation op =>
    let step := s.server.beginOperation s.disk op
    { session := { s with server := step.server }.markTerminated
      said := step.said
      result := (step.reply.map CallResult.replied).getD .waiting }

def beginCalls : List Call → Session → Turn (List CallResult)
  | [], s => { session := s, result := [] }
  | call :: calls, s =>
    let first := s.beginCall call
    let rest := beginCalls calls first.session
    { session := rest.session
      said := first.said ++ rest.said
      result := first.result :: rest.result }

def pendingBind (s : Session) : Option (Text × Nat) :=
  match s.server.phase with
  | some (.listening plan) => some (plan.host, plan.port)
  | _ => none

/-- One step of the operation under way. A fault of the listener strikes once. -/
def resume (s : Session) : Turn (Option Reply) :=
  let step := s.server.resume s.surroundings
  let bind := s.pendingBind
  { session := { s with
      server := step.server
      listenFault := if bind.isSome then none else s.listenFault
      binds := s.binds ++ bind.toList }
    said := step.said
    result := step.reply }

def serveTerminated : List Nat → Session → Turn Unit
  | [], s => { session := s, result := () }
  | id :: ids, s =>
    let first := s.serve id
    let rest := serveTerminated ids first.session
    { session := rest.session, said := first.said ++ rest.said, result := () }

/-- Terminated connections whose handlers still run, the oldest first. -/
def terminatedIds (s : Session) : List Nat :=
  ((s.connections.filter fun p => p.2.aborted && !p.2.closed).map Prod.fst).reverse

/-- Steps of an operation after it has begun: closing, reading, listening and naming. -/
def longestOperation : Nat := 4

/-- Takes the operation under way to its end. Handlers of connections that it has terminated go on as soon as
its next step is done, so they find what a stop leaves behind and nothing of a later start. -/
def settle : Nat → Session → Turn (Option Reply)
  | 0, s => { session := s, result := none }
  | steps + 1, s =>
    if s.server.phase.isNone then { session := s, result := none }
    else
      let first := s.resume
      let served := serveTerminated first.session.terminatedIds first.session
      let rest := settle steps served.session
      { session := rest.session
        said := first.said ++ served.said ++ rest.said
        result := first.result.or rest.result }

def settled (reply : Option Reply) : CallResult → CallResult
  | .waiting => (reply.map CallResult.replied).getD .waiting
  | r => r

/-- Begins calls together and sees them through: they run one after the other up to their first wait, and then
the one that waits is taken to its end. -/
def perform (calls : List Call) (s : Session) : Turn (List CallResult) :=
  let begun := beginCalls calls s
  let ended := settle longestOperation begun.session
  { session := ended.session
    said := begun.said ++ ended.said
    result := begun.result.map (settled ended.result) }

def performOne (op : Operation) (s : Session) : Turn (Option Reply) :=
  let turn := s.perform [.operation op]
  { session := turn.session
    said := turn.said
    result := match turn.result with
      | [.replied r] => some r
      | _ => none }

def dispatch (method target : Text) (s : Session) : Except TargetFault (Turn Response) :=
  (s.server.dispatch s.disk method target).map fun step =>
    { session := { s with server := step.server }, said := step.said, result := step.response }

end Session

end SitePreview
