import SitePreview.Files.Change
import SitePreview.Log.Channel
import SitePreview.Text.Case

namespace SitePreview

structure LogFile where
  title : Text
  least : Level
  deriving DecidableEq, Repr

namespace LogFile

def all : List LogFile := [
  { title := "nginx_preview".toList, least := .debug },
  { title := "nginx_preview_errors".toList, least := .error }]

/-- A day has files of its own. -/
def name (f : LogFile) (day : Text) : Text := f.title ++ '_' :: day ++ ".log".toList

def lines (f : LogFile) (ms : List Message) : List Text :=
  (ms.filter fun m => f.least.reaches m.level).map Message.text

end LogFile

inductive LogFault where
  | level (unknown : UnknownLevel)
  | directory (fault : FileFault)
  deriving DecidableEq, Repr

def LogFault.message : LogFault → Text
  | level unknown => unknown.message
  | directory fault => fault.message

/-- Open logs: the least level of the console and the directory of the files, if there are any. -/
structure Logs where
  console : Level
  directory : Option Text
  deriving DecidableEq, Repr

namespace Logs

def files (l : Logs) : List LogFile := if l.directory.isSome then LogFile.all else []

def prepare (l : Logs) (disk : Disk) : Except FileFault Disk :=
  match l.directory with
  | some directory => disk.ensureDirectory directory
  | none => .ok disk

/-- Opens the logs, first the console, whose level may be named in any letter case. -/
def start (disk : Disk) (directory : Option Text) (levelName : Text) :
    Except LogFault (Logs × Disk) :=
  match Level.find (Text.upper levelName) with
  | .error unknown => .error (.level unknown)
  | .ok console =>
    let logs : Logs := { console, directory }
    match logs.prepare disk with
    | .error fault => .error (.directory fault)
    | .ok prepared => .ok (logs, prepared)

def opened : Message := .info "Logger initialized successfully".toList

end Logs

end SitePreview
