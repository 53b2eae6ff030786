import SitePreview.Conf.Source
import SitePreview.Fields.Printed
import SitePreview.Log.Reports
import SitePreview.Routing.Summary
import SitePreview.Workspace.Locate

namespace SitePreview

def RuleSummary.toValue (r : RuleSummary) : Value := .record [
  ("rule".toList, .text r.rule),
  ("kind".toList, .text r.kind),
  ("proxy_pass".toList, .ofOptional r.proxyPass),
  ("root".toList, .ofOptional r.root),
  ("try_files".toList, (r.tryFiles.map .ofTexts).getD .null)]

namespace ConfigSummary

def toValue (s : ConfigSummary) : Value := .record [
  ("listen_port".toList, .number s.listenPort 0),
  ("document_root".toList, .text s.documentRoot),
  ("index_files".toList, .ofTexts s.indexFiles),
  ("locations".toList, .list (s.locations.map RuleSummary.toValue))]

def printed (s : ConfigSummary) : Text := s.toValue.printed 0 ++ ['\n']

end ConfigSummary

inductive TableFault where
  | notLocated (error : FileError)
  | noConfig
  | unreadable (error : SourceError)
  | badConfig (error : BuildError)
  | noServer
  deriving DecidableEq, Repr

namespace TableFault

/-- Faults of the workspace are told; others end the program. -/
def isForeseen : TableFault → Bool
  | noConfig => true
  | noServer => true
  | badConfig e => e.isForeseen
  | _ => false

def message : TableFault → Text
  | notLocated e => FileFault.message ⟨e, []⟩
  | noConfig => "nginx.conf not found".toList
  | unreadable e => e.message
  | badConfig e => e.message
  | noServer => "No valid http/server block found in nginx.conf".toList

end TableFault

def tableOf (platform : Platform) (disk : Disk) (s : Settings) (configPath : Text) :
    List Message × Except TableFault ConfigSummary :=
  match disk.parseConfig platform configPath with
  | .error e => ([], .error (.unreadable e))
  | .ok parsed =>
    let base := baseDirFor disk.cwd s configPath
    (parsed.messages ++ ServerConfig.messages platform.patterns parsed.nodes,
      match ServerConfig.ofNodes platform.patterns disk.cwd base parsed.nodes with
      | .error e => .error (.badConfig e)
      | .ok none => .error .noServer
      | .ok (some config) => .ok config.summary)

def routingTable (platform : Platform) (disk : Disk) (s : Settings) :
    List Message × Except TableFault ConfigSummary :=
  match lookUpConfig disk s with
  | .error e => ([], .error (.notLocated e))
  | .ok found =>
    match found.path? with
    | none => (found.messages, .error .noConfig)
    | some path =>
      let (said, table) := tableOf platform disk s path
      (found.messages ++ said, table)

end SitePreview
