import SitePreview.Conf.Node
import SitePreview.Conf.Parser
import SitePreview.Files.Path
import SitePreview.Routing.ListenPort
import SitePreview.Routing.LocationRule

namespace SitePreview

structure ServerConfig where
  listenPort : Nat := defaultPort
  documentRoot : Text
  indexFiles : List Text
  locations : List LocationRule := []
  baseDir : Text

inductive BuildError where
  | badPattern (location : Text) (fault : PatternFault)
  | badPort (overflow : DigitOverflow)
  deriving DecidableEq, Repr

namespace BuildError

/-- A pattern that is no pattern is a fault of the configuration; numbers that are too long, and groups that are
too deep in each other, are not foreseen. -/
def isForeseen : BuildError → Bool
  | badPattern _ (.malformed ..) => true
  | _ => false

def message : BuildError → Text
  | badPattern location (.malformed reason position) =>
    "Invalid regex in location '".toList ++ location ++ "': ".toList ++
      PatternFault.message location (.malformed reason position)
  | badPattern location fault => fault.message location
  | badPort overflow => tooManyDigitsMessage overflow.digits

end BuildError

def defaultIndexFiles : List Text := ["index.html".toList, "index.htm".toList]

def trimmedArgs (args : Option (List Text)) : List Text :=
  ((args.getD []).map Text.trim).filter (· ≠ [])

def indexList (args : Option (List Text)) : List Text :=
  match trimmedArgs args with
  | [] => defaultIndexFiles
  | names => names

def tryFilesList (args : Option (List Text)) : Option (List Text) :=
  match trimmedArgs args with
  | [] => none
  | names => some names

def firstArgs (name : Text) (nodes : List Node) : Option (List Text) :=
  (Node.directivesNamed name nodes).head?.map Directive.args

/-- An argument that is missing or empty stands for the root path. -/
def orSlash (arg : Option Text) : Text :=
  match arg with
  | some (c :: cs) => c :: cs
  | _ => ['/']

/-- The selector, the matcher and the case rule that a location's arguments write. -/
def selectorOf (support : PatternSupport) (args : List Text) :
    Except BuildError (Selector × Text × Bool) :=
  let modifier := args.head?.getD []
  let next := args[1]?
  if modifier = ['='] then .ok (.exact, orSlash next, false)
  else if modifier = ['~'] ∨ modifier = ['~', '*'] then
    let source := next.getD []
    let ignoreCase := modifier = ['~', '*']
    match Pattern.compile support source ignoreCase with
    | .ok p => .ok (.pattern p, source, ignoreCase)
    | .error fault => .error (.badPattern source fault)
  else if modifier = ['^', '~'] then .ok (.prefixed true, orSlash next, false)
  else .ok (.prefixed false, orSlash (some modifier), false)

namespace LocationRule

def ofBlock (support : PatternSupport) (b : Block) : Except BuildError LocationRule := do
  let (selector, matcher, ignoreCase) ← selectorOf support b.args
  return {
    selector, matcher
    caseInsensitive := ignoreCase
    proxyTarget := Node.firstArg? "proxy_pass".toList b.children
    rootOverride := Node.firstArg? "root".toList b.children
    tryFiles := tryFilesList (firstArgs "try_files".toList b.children) }

end LocationRule

namespace ServerConfig

def httpBlock? (nodes : List Node) : Option Block :=
  (Node.blocksNamed "http".toList nodes).head?

def serverBlock? (nodes : List Node) : Option Block :=
  (httpBlock? nodes).bind fun http =>
    (Node.blocksNamed "server".toList http.children).head?

def rulesOf (support : PatternSupport) (server : Block) : Except BuildError (List LocationRule) :=
  (Node.blocksNamed "location".toList server.children).mapM (LocationRule.ofBlock support)

def rootOf (cwd baseDir : Text) (server : Block) : Text :=
  match Node.firstArg? "root".toList server.children with
  | some (c :: cs) => Path.absolute cwd (Path.join baseDir (c :: cs))
  | _ => baseDir

def ofServer (support : PatternSupport) (cwd baseDir : Text) (server : Block) :
    Except BuildError ServerConfig := do
  let base := Path.absolute cwd baseDir
  let locations ← rulesOf support server
  let port ← (portOfListen (firstArgs "listen".toList server.children)).mapError .badPort
  return {
    listenPort := port
    documentRoot := rootOf cwd base server
    indexFiles := indexList (firstArgs "index".toList server.children)
    locations
    baseDir := base }

/-- The configuration of the first server, or none where there is no server. -/
def ofNodes (support : PatternSupport) (cwd baseDir : Text) (nodes : List Node) :
    Except BuildError (Option ServerConfig) :=
  match serverBlock? nodes with
  | none => .ok none
  | some server => (ofServer support cwd baseDir server).map some

/-- The root that requests of a location are served from. -/
def rootFor (config : ServerConfig) (location : Option LocationRule) (cwd : Text) : Text :=
  match location.bind LocationRule.rootOverride with
  | some (c :: cs) => Path.absolute cwd (Path.join config.baseDir (c :: cs))
  | _ => config.documentRoot

end ServerConfig

end SitePreview
