import SitePreview.Server.Request

namespace SitePreview

inductive Event where
  | call (disk : Disk) (op : Operation)
  | resume (w : Surroundings)
  | update (settings : Settings)
  | arrive (method target : Text)
  | finish (disk : Disk) (resolved : Resolved)
  | connect (id : Nat)
  | disconnect (id : Nat)

namespace Server

def meet (e : Event) (s : Server) : Step :=
  match e with
  | .call disk op => s.beginOperation disk op
  | .resume w => s.resume w
  | .update settings => { server := s.updateSettings settings }
  | .arrive method target =>
    match s.arrive method target with
    | .ok (arrived, said, _) => { server := arrived, said }
    | .error _ => { server := s }
  | .finish disk resolved =>
    let step := s.finishResolved disk resolved
    { server := step.server, said := step.said }
  | .connect id => { server := { s with registry := s.registry.register id } }
  | .disconnect id => { server := { s with registry := s.registry.unregister id } }

/-- The settings that a start has last chosen its address with, once a step has been resumed: it
chooses when it goes on from reading. -/
def settledWith (settled : Settings) (s : Server) : Settings :=
  match s.phase with
  | some (.reading _) => s.settings
  | _ => settled

end Server

/-- A server with an account of its past. -/
structure History where
  server : Server
  opened : Nat := 0
  closed : Nat := 0
  /-- The settings during the latest operation that has waited, from its call to its end, the newest
  first. -/
  inForce : List Settings := []
  /-- The settings that a start has last chosen its address with. -/
  settled : Settings

namespace History

def fresh (settings : Settings) : History := { server := { settings }, settled := settings }

/-- The settings in force after an event that leads to another server. A call that begins an
operation begins a new list. -/
def inForceAfter (e : Event) (next : Server) (h : History) : List Settings :=
  match e with
  | .call .. => if h.server.phase.isNone && next.phase.isSome then [h.server.settings] else h.inForce
  | .update settings => if h.server.phase.isSome then settings :: h.inForce else h.inForce
  | _ => h.inForce

def after (h : History) (e : Event) : History :=
  let step := h.server.meet e
  { server := step.server
    opened := h.opened + step.acts.count .opened
    closed := h.closed + step.acts.count .closed
    inForce := h.inForceAfter e step.server
    settled := match e with
      | .resume _ => h.server.settledWith h.settled
      | _ => h.settled }

/-- The history of a new server to which some events happen. -/
def ofEvents (settings : Settings) (events : List Event) : History :=
  events.foldl after (fresh settings)

end History

end SitePreview
