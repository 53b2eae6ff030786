import SitePreview.Log.Reports
import SitePreview.Server.PortOwner
import SitePreview.Server.Registry
import SitePreview.Server.Reply
import SitePreview.Server.Status
import SitePreview.Workspace.Locate

namespace SitePreview

/-- What a start has settled on before it listens. -/
structure ListenPlan where
  configPath : Text
  baseDir : Text
  config : ServerConfig
  host : Text
  port : Nat

inductive Phase where
  | closing (restarting : Bool) (terminated : Nat)
  | reading (configPath : Text)
  | listening (plan : ListenPlan)
  | naming (port : Nat)

inductive Operation where
  | start
  | stop
  | restart
  deriving DecidableEq, Repr

structure Server where
  settings : Settings
  listening : Bool := false
  config : Option ServerConfig := none
  kept : Status := {}
  phase : Option Phase := none
  registry : Registry := {}

/-- What surrounds a server while it takes a step. -/
structure Surroundings where
  platform : Platform
  disk : Disk
  sockets : SocketTable := .sockets []
  listenFault : Option ListenFault := none
  clock : Text := []

/-- What is done to a listener: it is opened on an address or closed. -/
inductive ListenerAct where
  | opened
  | closed
  deriving DecidableEq, Repr

/-- The server after a step, what was said, what was done to listeners in order, and the reply if
the operation is over. -/
structure Step where
  server : Server
  said : List Message := []
  acts : List ListenerAct := []
  reply : Option Reply := none

def Step.afterSaying (said : List Message) (s : Step) : Step := { s with said := said ++ s.said }

namespace Server

/-- The status with the connections that are open now. -/
def status (s : Server) : Status := { s.kept with activeConnections := s.registry.size }

def refuse (s : Server) (r : Reply) : Step := { server := s, reply := some r }

def fail (s : Server) (e : StartError) : Step where
  server := { s with
    config := none
    kept := { state := .error, lastError := some e.message }
    phase := none }
  said := [.error ("Preview server failed to start: ".toList ++ e.message),
    .output ("[Fatal] ".toList ++ e.message)]
  reply := some (.failed e)

/-- A failure that no start foresees is told on its own first. -/
def failUnforeseen (s : Server) (why : Text) : Step :=
  (s.fail (.unforeseen why)).afterSaying
    [.error ("Unexpected error while starting preview server: ".toList ++ why)]

def beginStart (disk : Disk) (s : Server) : Step :=
  if s.listening then s.refuse .alreadyRunning
  else
    let s := { s with kept := { state := .starting }, phase := none }
    match lookUpConfig disk s.settings with
    | .error e => s.failUnforeseen (FileFault.message ⟨e, []⟩)
    | .ok found =>
      match found.path? with
      | none => (s.fail .noConfig).afterSaying found.messages
      | some path =>
        { server := { s with phase := some (.reading path) }, said := found.messages }

def beginStop (restarting : Bool) (s : Server) : Step :=
  if s.listening then
    let (terminated, registry) := s.registry.terminateAll
    { server := { s with
        listening := false
        kept := { s.kept with state := .stopping }
        phase := some (.closing restarting terminated.length)
        registry }
      acts := [.closed] }
  else s.refuse .notRunning

/-- Begins an operation. While another one is under way nothing changes. -/
def beginOperation (disk : Disk) (op : Operation) (s : Server) : Step :=
  if s.phase.isSome then s.refuse .busy
  else match op with
    | .start => s.beginStart disk
    | .stop => s.beginStop false
    | .restart => if s.listening then s.beginStop true else s.beginStart disk

def startingLines (s : Server) (cwd clock configPath baseDir : Text) (config : ServerConfig)
    (url : Text) : List Message :=
  let relative (p : Text) := workspaceRelative cwd p s.settings.workspaceRoot
  [.output ("> [".toList ++ clock ++ "] Starting preview server...".toList),
    .output ("- Config file: ".toList ++ relative configPath),
    .output ("- Base directory: ".toList ++ relative baseDir),
    .output ("- Document root: ".toList ++ config.documentRoot),
    .output ("- Listen address: ".toList ++ url)]

def chosenPort (s : Settings) (config : ServerConfig) : Nat :=
  if s.overridePort = 0 then config.listenPort else s.overridePort

def afterReading (w : Surroundings) (configPath : Text) (s : Server) : Step :=
  match w.disk.parseConfig w.platform configPath with
  | .error e => if e.isForeseen then s.fail (.unreadable configPath e) else s.failUnforeseen e.message
  | .ok parsed =>
    let base := baseDirFor w.disk.cwd s.settings configPath
    let said := parsed.messages ++ ServerConfig.messages w.platform.patterns parsed.nodes
    let built := ServerConfig.ofNodes w.platform.patterns w.disk.cwd base parsed.nodes
    Step.afterSaying said <| match built with
      | .error e => if e.isForeseen then s.fail (.badConfig e) else s.failUnforeseen e.message
      | .ok none => s.fail .noServer
      | .ok (some config) =>
        let host := s.settings.host
        let port := chosenPort s.settings config
        let plan : ListenPlan := { configPath, baseDir := base, config, host, port }
        { server := { s with phase := some (.listening plan) }
          said := s.startingLines w.disk.cwd w.clock configPath base config (addressOf host port) }

def run (plan : ListenPlan) (s : Server) : Step :=
  let url := addressOf plan.host plan.port
  { server := { s with
      listening := true
      config := some plan.config
      kept := {
        state := .running
        host := some plan.host
        port := some plan.port
        configPath := some plan.configPath
        baseDir := some plan.baseDir
        documentRoot := some plan.config.documentRoot
        started := true }
      phase := none }
    said := [.output ("[OK] Preview server ready: ".toList ++ url)]
    acts := [.opened]
    reply := some (.started url) }

def afterListening (w : Surroundings) (plan : ListenPlan) (s : Server) : Step :=
  match w.listenFault with
  | none => s.run plan
  | some .inUse => { server := { s with phase := some (.naming plan.port) } }
  | some (.refused number why) =>
    s.fail (.notListening plan.host plan.port (ListenFault.reason number why))
  | some (.unforeseen why) => s.failUnforeseen why

def afterClosing (disk : Disk) (restarting : Bool) (terminated : Nat) (s : Server) : Step :=
  let s := { s with config := none, kept := {}, phase := none }
  let said := [Message.output ("Preview server stopped (".toList ++ Text.ofNat terminated ++
    " connections terminated)".toList)]
  if restarting then (s.beginStart disk).afterSaying said
  else { server := s, said, reply := some .stopped }

def resume (w : Surroundings) (s : Server) : Step :=
  match s.phase with
  | none => { server := s }
  | some (.closing restarting terminated) => s.afterClosing w.disk restarting terminated
  | some (.reading configPath) => s.afterReading w configPath
  | some (.listening plan) => s.afterListening w plan
  | some (.naming port) => s.fail (.portInUse port (portOwner w.sockets port))

def updateSettings (settings : Settings) (s : Server) : Server := { s with settings }

end Server

end SitePreview
