import SitePreview.Server.LifeCycle
import SitePreview.Serving.RequestHead
import SitePreview.Serving.Resolve
import SitePreview.Serving.Response
import SitePreview.Serving.Target

namespace SitePreview

structure Routed where
  config : ServerConfig
  location : Option LocationRule
  path : Text

structure Fetch where
  file : Text
  mediaType : Text
  deriving DecidableEq, Repr

/-- A request that has arrived is answered at once or goes on. -/
inductive Arrival where
  | answered (response : Response)
  | accepted (request : Routed)

inductive Resolved where
  | answered (response : Response)
  | fetching (fetch : Fetch)
  | failed (fault : FileFault)
  deriving DecidableEq, Repr

structure RequestStep where
  server : Server
  said : List Message := []
  response : Response

namespace Disk

def contentOf (d : Disk) (p : Text) : Except FileFault Bytes :=
  match d.status p with
  | .ok (.file content) => .ok content
  | .ok _ => .error ⟨.isDirectory, p⟩
  | .error f => .error f

end Disk

/-- The mock answer for what a proxy would get. -/
def proxyBody (target : Text) : Text := "[Mock] Matched proxy location: ".toList ++ target

def Resolved.ofOutcome : Outcome → Resolved
  | .serve file mediaType => .fetching ⟨file, mediaType⟩
  | .proxy target => .answered (.ofText 200 (proxyBody target))
  | .forbidden => .answered .forbidden
  | .notFound true => .answered .indexNotFound
  | .notFound false => .answered .notFound

namespace Routed

def resolved (disk : Disk) (r : Routed) : Resolved :=
  match resolve disk r.config r.location r.path with
  | .ok outcome => .ofOutcome outcome
  | .error f => .failed f

/-- A request that is passed on to a proxy is told. -/
def messages (disk : Disk) (r : Routed) : List Message :=
  match resolve disk r.config r.location r.path with
  | .ok (.proxy target) =>
    [.output ("[Proxy] ".toList ++ r.path ++ " -> ".toList ++ target ++
      " (mock response only)".toList)]
  | _ => []

end Routed

def Fetch.response (disk : Disk) (f : Fetch) : Except FileFault Response :=
  (disk.contentOf f.file).map fun content => ⟨200, f.mediaType, content⟩

namespace Server

/-- Takes a request in. A target that cannot be read as one is not counted. -/
def arrive (method target : Text) (s : Server) :
    Except TargetFault (Server × List Message × Arrival) :=
  match s.config with
  | none => .ok (s, [], .answered .serverError)
  | some config => do
    let path ← Target.path target
    let location := pickLocation config.locations path
    let matcher := (location.map LocationRule.matcher).getD "default".toList
    let kept := { s.kept with requestsHandled := s.kept.requestsHandled + 1 }
    return ({ s with kept },
      [.output (method ++ ' ' :: path ++ " -> ".toList ++ matcher)],
      .accepted { config, location, path })

/-- A request that fails leaves its error in the status. -/
def failRequest (f : FileFault) (s : Server) : RequestStep where
  server := { s with kept := { s.kept with lastError := some f.message } }
  said := [.output ("[Error] Request handling failed: ".toList ++ f.message)]
  response := .serverError

def finishFetch (disk : Disk) (f : Fetch) (s : Server) : RequestStep :=
  match f.response disk with
  | .ok response => { server := s, response }
  | .error fault => s.failRequest fault

def finishResolved (disk : Disk) (r : Resolved) (s : Server) : RequestStep :=
  match r with
  | .answered response => { server := s, response }
  | .fetching fetch => s.finishFetch disk fetch
  | .failed fault => s.failRequest fault

/-- The response to a request, with all steps in a row. -/
def dispatch (disk : Disk) (method target : Text) (s : Server) : Except TargetFault RequestStep :=
  match s.arrive method target with
  | .error f => .error f
  | .ok (s, said, .answered response) => .ok { server := s, said, response }
  | .ok (s, said, .accepted request) =>
    let step := s.finishResolved disk (request.resolved disk)
    .ok { step with said := said ++ request.messages disk ++ step.said }

end Server

end SitePreview
