import SitePreview.Workspace.Settings

namespace SitePreview

inductive CommandOption where
  | help
  | config
  | baseDir
  | workspace
  | host
  | port
  | logDir
  | logLevel
  | printConfig
  | version
  deriving DecidableEq, Repr

namespace CommandOption

def all : List CommandOption :=
  [help, config, baseDir, workspace, host, port, logDir, logLevel, printConfig, version]

/-- How an option is written, the short form first. -/
def spellings : CommandOption → List Text
  | help => ["-h".toList, "--help".toList]
  | config => ["--config".toList]
  | baseDir => ["--base-dir".toList]
  | workspace => ["--workspace".toList]
  | host => ["--host".toList]
  | port => ["--port".toList]
  | logDir => ["--log-dir".toList]
  | logLevel => ["--log-level".toList]
  | printConfig => ["--print-config".toList]
  | version => ["--version".toList]

/-- What stands for the value of an option in the help. Options without one take no value. -/
def valueName : CommandOption → Option Text
  | config => some "CONFIG".toList
  | baseDir => some "BASE_DIR".toList
  | workspace => some "WORKSPACE".toList
  | host => some "HOST".toList
  | port => some "PORT".toList
  | logDir => some "LOG_DIR".toList
  | logLevel => some "LOG_LEVEL".toList
  | _ => none

def about : CommandOption → Text
  | help => "show this help message and exit".toList
  | config => "nginx.conf path (relative to the workspace)".toList
  | baseDir => "static base directory (relative to the workspace)".toList
  | workspace => "workspace root (default: current directory)".toList
  | host => "listen host (default: 0.0.0.0)".toList
  | port => "override listen port, 0 uses the config port".toList
  | logDir => "log directory (default: logs)".toList
  | logLevel => "console log level (default: INFO)".toList
  | printConfig => "print the parsed routing table and exit".toList
  | version => "show program's version number and exit".toList

def takesValue (o : CommandOption) : Bool := o.valueName.isSome

def title (o : CommandOption) : Text := ['/'].intercalate o.spellings

def table : List (Text × CommandOption) := all.flatMap fun o => o.spellings.map fun s => (s, o)

end CommandOption

/-- What the command line asks for. Without a workspace the working directory is one. -/
structure RunOptions where
  config : Text := []
  baseDir : Text := []
  workspace : Option Text := none
  host : Text := anyAddress
  port : Int := 0
  logDir : Text := "logs".toList
  logLevel : Text := "INFO".toList
  printConfig : Bool := false
  deriving DecidableEq, Repr

end SitePreview
