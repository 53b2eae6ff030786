import SitePreview.Fields.Checked

namespace SitePreview

inductive ServerState where
  | running
  | stopped
  | starting
  | stopping
  | error
  deriving DecidableEq, Repr

namespace ServerState

def named : List (Text × ServerState) := [
  ("running".toList, running), ("stopped".toList, stopped), ("starting".toList, starting),
  ("stopping".toList, stopping), ("error".toList, error)]

def name (s : ServerState) : Text :=
  match s with
  | running => "running".toList
  | stopped => "stopped".toList
  | starting => "starting".toList
  | stopping => "stopping".toList
  | error => "error".toList

end ServerState

/-- Of the time of the start only that it is known. -/
structure Status where
  state : ServerState := .stopped
  host : Option Text := none
  port : Option Int := none
  configPath : Option Text := none
  baseDir : Option Text := none
  documentRoot : Option Text := none
  started : Bool := false
  activeConnections : Nat := 0
  requestsHandled : Nat := 0
  lastError : Option Text := none
  deriving DecidableEq, Repr

def addressOf (host : Text) (port : Int) : Text :=
  "http://".toList ++ host ++ ':' :: Text.ofInt port

namespace Status

def isRunning (s : Status) : Bool := s.state == .running

def url (s : Status) : Option Text :=
  match s.host, s.port with
  | some host, some port => some (addressOf host port)
  | _, _ => none

def count (v : Value) : Checked Nat :=
  Int.toNat <$> v.asInteger.further (Value.atLeast 0)

def ofRecord (r : Record) : Checked Status :=
  let text (name : String) := r.read name (some none) (Value.orNone Value.asText)
  mk <$> r.read "state" (some .stopped) (Value.asOneOf ServerState.named)
    <*> text "host"
    <*> r.read "port" (some none) (Value.orNone Value.asInteger)
    <*> text "config_path"
    <*> text "base_dir"
    <*> text "document_root"
    <*> r.read "started_at" (some false) (fun v => .valid (!v.isNull))
    <*> r.read "active_connections" (some 0) count
    <*> r.read "requests_handled" (some 0) count
    <*> text "last_error"

end Status

end SitePreview
