import SitePreview.Server.Request

namespace SitePreview

structure Connection where
  received : Bytes := []
  ended : Bool := false
  sent : Bytes := []
  closed : Bool := false
  aborted : Bool := false
  failure : Option TargetFault := none
  deriving DecidableEq, Repr

/-- What a handler has done with the octets so far. -/
inductive Handled where
  | waiting
  | finished (written : Bytes) (failure : Option TargetFault)
  deriving DecidableEq, Repr

structure HandlerStep where
  server : Server
  said : List Message := []
  handled : Handled

def isHeadOnly (method : Text) : Bool := method == "HEAD".toList

namespace Server

def handleHead (disk : Disk) (head : RequestHead) (s : Server) : HandlerStep :=
  match s.dispatch disk head.method head.target with
  | .ok step =>
    { server := step.server
      said := step.said
      handled := .finished (step.response.render (isHeadOnly head.method)) none }
  | .error f => { server := s, handled := .finished [] (some f) }

/-- Handles what a client has sent. A client that sends nothing gets nothing, and a head that is
refused gets a response of its own. -/
def handle (disk : Disk) (ended : Bool) (received : Bytes) (s : Server) : HandlerStep :=
  match RequestHead.read RequestHead.defaultLineLimit ended received with
  | .waiting => { server := s, handled := .waiting }
  | .silent => { server := s, handled := .finished [] none }
  | .refused _ => { server := s, handled := .finished (Response.badRequest.render false) none }
  | .head head _ => s.handleHead disk head

end Server

namespace Connection

/-- A terminated connection hears the end, and what is written to it is lost. -/
def terminate (c : Connection) : Connection := { c with ended := true, aborted := true }

def finish (c : Connection) (written : Bytes) (failure : Option TargetFault) : Connection :=
  { c with
    sent := if c.aborted then c.sent else c.sent ++ written
    closed := true
    failure }

def isOpen (c : Connection) : Bool := !c.closed && !c.aborted

def receive (c : Connection) (octets : Bytes) : Connection :=
  if c.isOpen then { c with received := c.received ++ octets } else c

def receiveEnd (c : Connection) : Connection := if c.isOpen then { c with ended := true } else c

end Connection

end SitePreview
