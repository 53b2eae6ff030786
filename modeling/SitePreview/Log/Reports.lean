import SitePreview.Conf.Parser
import SitePreview.Log.Level
import SitePreview.Routing.ServerConfig

namespace SitePreview

/-- The counts of damage, unless there is none. -/
def ParseResult.messages (r : ParseResult) : List Message :=
  if r.isComplete then []
  else [.warning ("Config structure is incomplete: unclosed_blocks=".toList ++
    Text.ofNat r.unclosedBlocks ++ ", unmatched_closers=".toList ++
    Text.ofNat r.unmatchedClosers ++ ", dangling_directives=".toList ++
    Text.ofNat r.danglingDirectives)]

namespace ServerConfig

def portMessages (server : Block) : List Message :=
  match outOfRangeListen? (firstArgs "listen".toList server.children) with
  | some value => [.warning ("Listen port out of range: ".toList ++ value ++
      ", falling back to ".toList ++ Text.ofNat defaultPort)]
  | none => []

def serverMessages (support : PatternSupport) (server : Block) : List Message :=
  match rulesOf support server with
  | .ok _ => portMessages server
  | .error _ => []

def messages (support : PatternSupport) (nodes : List Node) : List Message :=
  match httpBlock? nodes, serverBlock? nodes with
  | none, _ => [.warning "No http block found in config".toList]
  | some _, none => [.warning "No server block found in http block".toList]
  | some _, some server => serverMessages support server

end ServerConfig

end SitePreview
