import SitePreview.Routing.ServerConfig
import SitePreview.Serving.MediaType
import SitePreview.Serving.SafeJoin

namespace SitePreview

inductive Outcome where
  | serve (file mediaType : Text)
  | proxy (target : Text)
  | notFound (inDirectory : Bool)
  | forbidden
  deriving DecidableEq, Repr

namespace Outcome

def statusCode : Outcome → Nat
  | serve .. => 200
  | proxy _ => 200
  | notFound _ => 404
  | forbidden => 403

def reason : Outcome → Text
  | serve .. => "file found".toList
  | proxy _ => "proxy location".toList
  | notFound true => "Directory index not found".toList
  | notFound false => "Not Found".toList
  | forbidden => "path escapes document root".toList

def ofFile (path : Text) : Outcome := .serve path (mediaTypeOf path)

end Outcome

/-- Joins and keeps the root with a fault. -/
def safeJoinFault (disk : Disk) (root : Text) (path : Text) : Except FileFault (Option Text) :=
  (safeJoin disk root (some path)).mapError fun error => ⟨error, root⟩

section Lookups

variable (disk : Disk) (stat : Text → Except FileFault Entry)

/-- The first of some paths that, joined to a directory, is a regular file. -/
def firstRegularBy (directory : Text) : List Text → Except FileFault (Option Text)
  | [] => .ok none
  | name :: names => do
    match ← safeJoinFault disk directory name with
    | none => firstRegularBy directory names
    | some path =>
      match ← Disk.presentOf (stat path) with
      | some (.file _) => return some path
      | _ => firstRegularBy directory names

def rootedCandidates (location : Option LocationRule) : List Text :=
  ((location.bind LocationRule.tryFiles).getD []).filter Path.isAbsolute

/-- What is left when a path is no file: the first candidate that is one. -/
def resolveCandidatesBy (root : Text) (location : Option LocationRule) (inDirectory : Bool) :
    Except FileFault Outcome := do
  match ← firstRegularBy disk stat root (rootedCandidates location) with
  | some found => return .ofFile found
  | none => return .notFound inDirectory

def resolveFileBy (config : ServerConfig) (location : Option LocationRule) (path : Text) :
    Except FileFault Outcome := do
  let root := config.rootFor location disk.cwd
  match ← safeJoinFault disk root path with
  | none => return .forbidden
  | some found =>
    match ← Disk.presentOf (stat found) with
    | some (.file _) => return .ofFile found
    | some (.directory _) =>
      match ← firstRegularBy disk stat found config.indexFiles with
      | some index => return .ofFile index
      | none => resolveCandidatesBy disk stat root location true
    | _ => resolveCandidatesBy disk stat root location false

/-- The outcome for a path in the location that was picked for it, with the links of a disk and
whatever is said of each path. -/
def resolveBy (config : ServerConfig) (location : Option LocationRule) (path : Text) :
    Except FileFault Outcome :=
  match location.bind LocationRule.proxyTarget with
  | some (c :: cs) => .ok (.proxy (c :: cs))
  | _ => resolveFileBy disk stat config location path

end Lookups

def firstRegular (disk : Disk) : Text → List Text → Except FileFault (Option Text) :=
  firstRegularBy disk disk.status

def resolveCandidates (disk : Disk) :
    Text → Option LocationRule → Bool → Except FileFault Outcome :=
  resolveCandidatesBy disk disk.status

def resolve (disk : Disk) : ServerConfig → Option LocationRule → Text → Except FileFault Outcome :=
  resolveBy disk disk.status

end SitePreview
