import SitePreview.Server.Connection

namespace SitePreview

/-- How far a request is. -/
inductive Stage where
  | reading
  | resolving (request : Routed)
  | fetching (fetch : Fetch)
  | answered

/-- A request with the run during which its connection came, and the one that it was counted in. -/
structure Visit where
  cameIn : Nat
  countedIn : Option Nat := none
  stage : Stage := .reading

structure Traffic where
  server : Server
  runs : Nat := 0
  visits : List Visit := []

/-- What happens to a server and the requests on it, at any of which others may go on. -/
inductive Occurrence where
  | call (disk : Disk) (op : Operation)
  | resume (w : Surroundings)
  | update (settings : Settings)
  | come
  | takeIn (visit : Nat) (method target : Text)
  | proceed (visit : Nat) (disk : Disk)
  | leave (visit : Nat)

namespace Stage

def proceed (disk : Disk) (stage : Stage) (s : Server) : Stage × Server :=
  match stage with
  | resolving request =>
    match request.resolved disk with
    | .fetching fetch => (fetching fetch, s)
    | resolved => (answered, (s.finishResolved disk resolved).server)
  | fetching fetch => (answered, (s.finishFetch disk fetch).server)
  | stage => (stage, s)

def failure? (disk : Disk) : Stage → Option FileFault
  | resolving request =>
    match request.resolved disk with
    | .failed fault => some fault
    | _ => none
  | fetching fetch =>
    match fetch.response disk with
    | .error fault => some fault
    | .ok _ => none
  | _ => none

end Stage

namespace Traffic

def operate (step : Step) (t : Traffic) : Traffic :=
  { t with server := step.server, runs := t.runs + step.acts.count .opened }

/-- The server as the head of a request finds it. A connection that a stop has terminated is heard out before
another run has its configuration. -/
def foundBy (i : Nat) (v : Visit) (t : Traffic) : Server :=
  if v.cameIn = t.runs ∨ i ∈ t.server.registry.members then t.server
  else { t.server with config := none }

/-- A head is read once. A target that cannot be read as one ends the request. -/
def takeIn (i : Nat) (method target : Text) (t : Traffic) : Traffic :=
  match t.visits[i]? with
  | some v =>
    match v.stage, (t.foundBy i v).arrive method target with
    | .reading, .ok (server, _, .accepted request) =>
      let counted := { v with countedIn := some t.runs, stage := .resolving request }
      { t with server, visits := t.visits.set i counted }
    | .reading, _ => { t with visits := t.visits.set i { v with stage := .answered } }
    | _, _ => t
  | none => t

def proceed (i : Nat) (disk : Disk) (t : Traffic) : Traffic :=
  match t.visits[i]? with
  | some v =>
    let step := v.stage.proceed disk t.server
    { t with server := step.2, visits := t.visits.set i { v with stage := step.1 } }
  | none => t

def after (t : Traffic) : Occurrence → Traffic
  | .call disk op => t.operate (t.server.beginOperation disk op)
  | .resume w => t.operate (t.server.resume w)
  | .update settings => { t with server := t.server.updateSettings settings }
  | .come =>
    let registry := t.server.registry.register t.visits.length
    { t with server := { t.server with registry }, visits := t.visits ++ [{ cameIn := t.runs }] }
  | .takeIn i method target => t.takeIn i method target
  | .proceed i disk => t.proceed i disk
  | .leave i => { t with server := { t.server with registry := t.server.registry.unregister i } }

def ofOccurrences (settings : Settings) (occurrences : List Occurrence) : Traffic :=
  occurrences.foldl after { server := { settings } }

def countedIn (run : Nat) (t : Traffic) : Nat := t.visits.countP fun v => v.countedIn = some run

end Traffic

end SitePreview
