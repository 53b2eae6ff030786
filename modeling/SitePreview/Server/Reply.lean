import SitePreview.Conf.Source
import SitePreview.Routing.ServerConfig

namespace SitePreview

inductive ListenFault where
  | inUse
  | refused (number : Int) (why : Text)
  | unforeseen (why : Text)
  deriving DecidableEq, Repr

/-- The text of a refusal, or its number where there is no text. -/
def ListenFault.reason (number : Int) (why : Text) : Text :=
  if why ≠ [] ∨ number = 0 then why else "[Errno ".toList ++ Text.ofInt number ++ "] ".toList

inductive StartError where
  | noConfig
  | unreadable (path : Text) (error : SourceError)
  | badConfig (error : BuildError)
  | noServer
  | portInUse (port : Nat) (owner : Option Text)
  | notListening (host : Text) (port : Nat) (why : Text)
  | unforeseen (why : Text)
  deriving DecidableEq, Repr

def StartError.message : StartError → Text
  | noConfig => "nginx.conf not found (place it in the workspace or set a config path)".toList
  | unreadable path error => "Failed to read ".toList ++ path ++ ": ".toList ++ error.message
  | badConfig error => "Failed to build config: ".toList ++ error.message
  | noServer => "No valid http/server block found in nginx.conf".toList
  | portInUse port owner =>
    "Port ".toList ++ Text.ofNat port ++ " is already in use".toList ++
      match owner with
      | some name => " by ".toList ++ name
      | none => []
  | notListening host port why =>
    "Failed to listen on ".toList ++ host ++ ':' :: Text.ofNat port ++ ": ".toList ++ why
  | unforeseen why => "Unexpected error while starting: ".toList ++ why

inductive Reply where
  | started (url : Text)
  | stopped
  | alreadyRunning
  | notRunning
  | busy
  | failed (error : StartError)
  deriving DecidableEq, Repr

namespace Reply

def isSuccess : Reply → Bool
  | started _ => true
  | stopped => true
  | _ => false

def message : Reply → Text
  | started url => "Preview server started: ".toList ++ url
  | stopped => "Preview server stopped".toList
  | alreadyRunning => "Preview server is already running".toList
  | notRunning => "Preview server is not running".toList
  | busy => "Another operation is in progress".toList
  | failed error => error.message

end Reply

end SitePreview
