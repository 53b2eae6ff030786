import SitePreview.Text.Basic

namespace SitePreview

inductive Level where
  | trace
  | debug
  | info
  | success
  | warning
  | error
  | critical
  deriving DecidableEq, Repr

namespace Level

def named : List (Text × Level) := [
  ("TRACE".toList, trace), ("DEBUG".toList, debug), ("INFO".toList, info),
  ("SUCCESS".toList, success), ("WARNING".toList, warning), ("ERROR".toList, error),
  ("CRITICAL".toList, critical)]

def ofName? (name : Text) : Option Level := named.lookup name

def name : Level → Text
  | trace => "TRACE".toList
  | debug => "DEBUG".toList
  | info => "INFO".toList
  | success => "SUCCESS".toList
  | warning => "WARNING".toList
  | error => "ERROR".toList
  | critical => "CRITICAL".toList

def weight : Level → Nat
  | trace => 5
  | debug => 10
  | info => 20
  | success => 25
  | warning => 30
  | error => 40
  | critical => 50

end Level

/-- A message with its weight. Those on the output are also for the host of the preview. -/
structure Message where
  level : Level
  text : Text
  onOutput : Bool := false
  deriving DecidableEq, Repr

namespace Message

def info (text : Text) : Message := { level := .info, text }

def warning (text : Text) : Message := { level := .warning, text }

def error (text : Text) : Message := { level := .error, text }

def output (text : Text) : Message := { level := .info, text, onOutput := true }

end Message

end SitePreview
