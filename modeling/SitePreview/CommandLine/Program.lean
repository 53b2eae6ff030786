import SitePreview.CommandLine.Request
import SitePreview.CommandLine.Table
import SitePreview.CommandLine.Usage
import SitePreview.Files.Canonical
import SitePreview.Log.Files
import SitePreview.Server.Session

namespace SitePreview

inductive Failure where
  | logs (fault : LogFault)
  | workspace (fault : FileFault)
  | linkLoop (path : Text)
  | table (fault : TableFault)
  deriving DecidableEq, Repr

def Failure.message : Failure → Text
  | logs fault => fault.message
  | workspace fault => fault.message
  | linkLoop path => "Symlink loop from ".toList ++ Quoted.text path
  | table fault => fault.message

inductive Ending where
  | exit (status : Nat)
  | failed (failure : Failure)
  deriving DecidableEq, Repr

structure RunResult where
  ending : Ending
  printed : Text := []
  complaint : Text := []
  logs : Option Logs := none
  said : List Message := []
  binds : List (Text × Nat) := []
  deriving DecidableEq, Repr

structure Machine where
  platform : Platform
  disk : Disk
  listenFault : Option ListenFault := none
  clock : Text := []

namespace Program

def greeting : List Message := [
  .info (List.replicate 60 '='),
  .info (Usage.programName ++ ' ' :: Usage.programVersion ++ " starting...".toList)]

def workspaceOf (disk : Disk) (o : RunOptions) : Except Failure Text :=
  let asked := Path.shown (o.workspace.getD disk.cwd)
  match disk.canonical asked with
  | .error e => .error (.workspace ⟨e, asked⟩)
  | .ok found =>
    match disk.status (Path.shown found) with
    | .error ⟨.tooManyLinks, path⟩ => .error (.linkLoop path)
    | _ => .ok (Path.shown found)

def settingsOf (workspace : Text) (o : RunOptions) : Checked Settings :=
  Settings.ofRecord [
    ("config_path".toList, .text o.config),
    ("base_dir".toList, .text o.baseDir),
    ("workspace_root".toList, .text workspace),
    ("host".toList, .text o.host),
    ("override_port".toList, .number o.port 0)]

def invalidSettings (count : Nat) : Message :=
  .error ("Invalid settings: ".toList ++ Text.ofNat count ++
    (if count = 1 then " validation error" else " validation errors").toList ++
    " for PreviewSettings".toList)

def printTable (platform : Platform) (disk : Disk) (s : Settings) : RunResult :=
  let (said, table) := routingTable platform disk s
  match table with
  | .ok summary => { ending := .exit 0, printed := summary.printed, said }
  | .error fault =>
    if fault.isForeseen then { ending := .exit 1, said := said ++ [.error fault.message] }
    else { ending := .failed (.table fault), said }

/-- Starts the server and stops it when the run is interrupted. -/
def serve (m : Machine) (s : Settings) : RunResult :=
  let idle : Session := {
    platform := m.platform
    disk := m.disk
    server := { settings := s }
    clock := m.clock
    listenFault := m.listenFault }
  let started := idle.performOne .start
  let told := (started.result.map Reply.message).getD []
  if (started.result.map Reply.isSuccess).getD false then
    let stopped := started.session.performOne .stop
    { ending := .exit 0
      said := started.said ++ [.info told] ++ stopped.said ++
        [.info "Interrupted, preview server stopped".toList]
      binds := started.session.binds }
  else
    { ending := .exit 1
      said := started.said ++ [.error told]
      binds := started.session.binds }

def runWith (m : Machine) (o : RunOptions) : RunResult :=
  match workspaceOf m.disk o with
  | .error failure => { ending := .failed failure }
  | .ok workspace =>
    match settingsOf workspace o with
    | .invalid issues => { ending := .exit 2, said := [invalidSettings issues.length] }
    | .valid s => if o.printConfig then printTable m.platform m.disk s else serve m s

def run (m : Machine) (words : List Text) : RunResult :=
  match CommandRequest.ofWords words with
  | .error e => { ending := .exit 2, complaint := Usage.complaint e }
  | .ok .help => { ending := .exit 0, printed := Usage.help }
  | .ok .version => { ending := .exit 0, printed := Usage.version }
  | .ok (.run o) =>
    match Logs.start m.disk (some o.logDir) o.logLevel with
    | .error fault => { ending := .failed (.logs fault) }
    | .ok (logs, disk) =>
      let r := runWith { m with disk } o
      { r with logs := some logs, said := greeting ++ r.said }

end Program

end SitePreview
