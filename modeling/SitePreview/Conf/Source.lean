import SitePreview.Conf.Parser
import SitePreview.Files.Disk
import SitePreview.Platform

namespace SitePreview

inductive SourceError where
  | absent (path : Text)
  | fault (fault : FileFault)
  | undecodable (why : Text)
  | unparsed (error : ParseError)
  deriving DecidableEq, Repr

namespace SourceError

/-- A file that is not there or cannot be asked for is foreseen. -/
def isForeseen : SourceError → Bool
  | absent _ | fault _ => true
  | undecodable _ | unparsed _ => false

def message : SourceError → Text
  | absent path => "File not found: ".toList ++ path
  | fault f => f.message
  | undecodable why => why
  | unparsed e => e.message

end SourceError

namespace Disk

/-- The octets of a path's regular file. Empty and single-dot parts of the path do not count. -/
def fileContent (d : Disk) (p : Text) : Except SourceError Bytes :=
  match d.status (Path.shown p) with
  | .ok (.file content) => .ok content
  | .error ⟨.nameTooLong, q⟩ => .error (.fault ⟨.nameTooLong, q⟩)
  | _ => .error (.absent (Path.shown p))

def readConfig (platform : Platform) (d : Disk) (p : Text) : Except SourceError Text := do
  (platform.decode (← d.fileContent p)).mapError .undecodable

def parseConfig (platform : Platform) (d : Disk) (p : Text) : Except SourceError ParseResult := do
  (parseText platform.blockRoom (← d.readConfig platform p)).mapError .unparsed

end Disk

end SitePreview
