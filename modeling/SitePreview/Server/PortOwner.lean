import SitePreview.Text.Basic

namespace SitePreview

/-- The process is named only if it can be asked. -/
structure Socket where
  port : Option Int
  listening : Bool
  pid : Option Int
  processName : Option Text
  deriving DecidableEq, Repr

inductive SocketTable where
  | unreadable
  | sockets (entries : List Socket)
  deriving DecidableEq, Repr

def describeProcess (name : Option Text) (pid : Int) : Text :=
  match name with
  | some name => name ++ " (pid ".toList ++ Text.ofInt pid ++ [')']
  | none => "pid ".toList ++ Text.ofInt pid

/-- The first socket that listens on a port decides. -/
def portOwner (table : SocketTable) (port : Int) : Option Text :=
  match table with
  | .unreadable => none
  | .sockets entries =>
    (entries.find? fun e => e.listening && e.port == some port).bind fun e =>
      e.pid.map (describeProcess e.processName)

end SitePreview
