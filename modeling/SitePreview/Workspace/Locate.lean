import SitePreview.Log.Level
import SitePreview.Text.Case
import SitePreview.Workspace.Settings
import SitePreview.Workspace.Walk

namespace SitePreview

/-- A path read from the workspace, unless it is absolute. -/
def inWorkspace (path : Text) (workspace : Option Text) : Text :=
  let p := Text.trim path
  if p = [] ∨ Path.isAbsolute p then p
  else match workspace with
    | some (c :: cs) => Path.join (c :: cs) p
    | _ => p

inductive Found where
  | configured (path : Text)
  | direct (path : Text)
  | searched (workspace : Text) (candidates : List Text)
  | nowhere
  deriving DecidableEq, Repr

/-- The result of looking for the configuration, with the path that was asked for but is no file. -/
structure Lookup where
  unusable : Option Text
  found : Found
  deriving DecidableEq, Repr

def shorterPath (best : Option Text) (p : Text) : Option Text :=
  match best with
  | none => some p
  | some b => if p.length < b.length then some p else some b

def shortestPath (paths : List Text) : Option Text := paths.foldl shorterPath none

namespace Lookup

def path? (l : Lookup) : Option Text :=
  match l.found with
  | .configured p => some p
  | .direct p => some p
  | .searched _ candidates => shortestPath candidates
  | .nowhere => none

def foundMessages : Found → List Message
  | .searched workspace candidates =>
    match shortestPath candidates with
    | none => [.info ("No nginx.conf found under ".toList ++ workspace)]
    | some p => [.info ("Found ".toList ++ Text.ofNat candidates.length ++
        " config candidates, using ".toList ++ p)]
  | _ => []

def messages (l : Lookup) : List Message :=
  (l.unusable.map fun p =>
    Message.warning ("Configured config file not accessible: ".toList ++ p)).toList ++
    foundMessages l.found

end Lookup

/-- The configuration in a workspace itself, or else those that a search finds. -/
def searchWorkspace (d : Disk) : Option Text → Except FileError Found
  | some (c :: cs) =>
    let direct := Path.join (c :: cs) configName
    if d.isRegularFile direct then .ok (.direct direct)
    else (findConfigs d (c :: cs) searchLimit).map (.searched (c :: cs))
  | _ => .ok .nowhere

def lookUpConfig (d : Disk) (s : Settings) : Except FileError Lookup :=
  if s.configPath = [] then (searchWorkspace d s.workspaceRoot).map fun found => ⟨none, found⟩
  else
    let asked := inWorkspace s.configPath s.workspaceRoot
    if d.isRegularFile asked then .ok ⟨none, .configured asked⟩
    else (searchWorkspace d s.workspaceRoot).map fun found => ⟨some asked, found⟩

/-- The directory of static files: the one asked for, the workspace, or the configuration's. -/
def baseDirFor (cwd : Text) (s : Settings) (configPath : Text) : Text :=
  if s.baseDir ≠ [] then Path.absolute cwd (inWorkspace s.baseDir s.workspaceRoot)
  else match s.workspaceRoot with
    | some (c :: cs) => Path.absolute cwd (c :: cs)
    | _ => Path.parent (Path.absolute cwd configPath)

/-- Whether a path lies below a directory, letter case left out. -/
def liesBelow (directory path : Text) : Bool :=
  let bound := ((Text.lower directory).reverse.dropWhile (· = '/')).reverse ++ ['/']
  bound.isPrefixOf (Text.lower path)

/-- The way from the workspace to a path in it; other paths stay as they are. -/
def workspaceRelative (cwd path : Text) (workspace : Option Text) : Text :=
  let full := Text.trim path
  match full, workspace with
  | c :: cs, some (w :: ws) =>
    let root := Path.absolute cwd (w :: ws)
    let file := Path.absolute cwd (c :: cs)
    if Text.lower file = Text.lower root then ['.']
    else if liesBelow root file then Path.relative cwd file root
    else full
  | _, _ => full

end SitePreview
