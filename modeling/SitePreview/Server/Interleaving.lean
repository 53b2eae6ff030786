import SitePreview.Server.LifeCycle

namespace SitePreview

/-- A call of an operation, with what has surrounded it each time it was resumed. -/
structure Caller where
  op : Operation
  disk : Disk
  accepted : Bool
  waits : List Surroundings := []
  phase : Option Phase := none
  reply : Option Reply := none

namespace Caller

/-- A call that has found the lock taken. -/
def refused (disk : Disk) (op : Operation) : Caller where
  op := op
  disk := disk
  accepted := false
  reply := some .busy

/-- A call that has taken the lock, after its first step. -/
def begun (disk : Disk) (op : Operation) (step : Step) : Caller where
  op := op
  disk := disk
  accepted := true
  phase := step.server.phase
  reply := step.reply

def goOn (w : Surroundings) (step : Step) (c : Caller) : Caller :=
  { c with waits := c.waits ++ [w], phase := step.server.phase, reply := step.reply }

end Caller

/-- A server that operations share. What they wait for is kept by their callers. -/
structure SharedServer where
  server : Server
  locked : Bool := false
  callers : List Caller := []
  said : List Message := []
  acts : List ListenerAct := []

inductive Move where
  | call (disk : Disk) (op : Operation)
  | resume (caller : Nat) (w : Surroundings)

namespace SharedServer

/-- The server once a caller has taken what it waits for out of a step. -/
def afterStep (step : Step) (locked : Bool) (callers : List Caller) (s : SharedServer) : SharedServer where
  server := { step.server with phase := none }
  locked := locked
  callers := callers
  said := s.said ++ step.said
  acts := s.acts ++ step.acts

def call (disk : Disk) (op : Operation) (s : SharedServer) : SharedServer :=
  if s.locked then { s with callers := s.callers ++ [.refused disk op] }
  else
    let step := s.server.beginOperation disk op
    s.afterStep step step.server.phase.isSome (s.callers ++ [.begun disk op step])

/-- Only a caller that waits can be resumed. At its end it gives the lock back. -/
def resume (i : Nat) (w : Surroundings) (s : SharedServer) : SharedServer :=
  match s.callers[i]? with
  | none => s
  | some c =>
    match c.phase with
    | none => s
    | some phase =>
      let step := ({ s.server with phase := some phase } : Server).resume w
      s.afterStep step (s.locked && step.server.phase.isSome) (s.callers.set i (c.goOn w step))

def after (s : SharedServer) : Move → SharedServer
  | .call disk op => s.call disk op
  | .resume i w => s.resume i w

def ofMoves (server : Server) (moves : List Move) : SharedServer :=
  moves.foldl after { server }

/-- The calls that have taken the lock, in the order in which they took it. -/
def accepted (s : SharedServer) : List Caller := s.callers.filter Caller.accepted

/-- The server together with what the operation under way waits for. -/
def joined (s : SharedServer) : Server := { s.server with phase := s.callers.findSome? Caller.phase }

end SharedServer

def Step.followedBy (step next : Step) : Step where
  server := next.server
  said := step.said ++ next.said
  acts := step.acts ++ next.acts
  reply := step.reply.or next.reply

/-- What calls have done that have the server to themselves. -/
structure Turns where
  server : Server
  said : List Message := []
  acts : List ListenerAct := []
  replies : List (Option Reply) := []

namespace Caller

def alone (c : Caller) (s : Server) : Step :=
  c.waits.foldl (fun step w => step.followedBy (step.server.resume w)) (s.beginOperation c.disk c.op)

def takeTurn (turns : Turns) (c : Caller) : Turns :=
  let step := c.alone turns.server
  { server := step.server
    said := turns.said ++ step.said
    acts := turns.acts ++ step.acts
    replies := turns.replies ++ [step.reply] }

/-- Calls one after the other, each with all its steps in a row. -/
def inTurn (callers : List Caller) (s : Server) : Turns := callers.foldl takeTurn { server := s }

end Caller

end SitePreview
