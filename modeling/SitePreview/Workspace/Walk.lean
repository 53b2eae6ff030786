import SitePreview.Files.Disk

namespace SitePreview

def configName : Text := "nginx.conf".toList

/-- Directories of built files and of fetched ones. -/
def excludedNames : List Text := ["dist", "build", "out", ".git", "node_modules"].map String.toList

namespace Walk

/-- Whether a name is another or comes before it, by the codes of their characters. -/
def notAfter : Text → Text → Bool
  | [], _ => true
  | _ :: _, [] => false
  | a :: as, b :: bs => if a = b then notAfter as bs else a.toNat < b.toNat

/-- Whether an entry is a directory, or a link that leads to one from where a path says it is. -/
def leadsToDirectory (d : Disk) (path : Text) (e : Entry) : Bool :=
  match e with
  | .directory _ => true
  | .link _ =>
    match d.locate path with
    | .ok (_, found) => found.isDirectory
    | .error _ => false
  | _ => false

/-- The configuration of a directory itself. -/
def here (d : Disk) (path : Text) (entries : List (Text × Entry)) : List Text :=
  match entries.lookup configName with
  | none => []
  | some e =>
    if leadsToDirectory d (Path.join path configName) e then []
    else [Path.shown (Path.join path configName)]

mutual

/-- The configurations in an entry that a path names, from the top down. -/
def below (d : Disk) (path : Text) : Entry → List Text
  | .directory entries =>
    if Disk.octetLength path > Disk.longestPath then []
    else here d path entries ++
      ((belowEach d path entries).mergeSort fun a b => notAfter a.1 b.1).flatMap Prod.snd
  | _ => []

/-- The same for each entry of a directory, with the entry's name. -/
def belowEach (d : Disk) (path : Text) : List (Text × Entry) → List (Text × List Text)
  | [] => []
  | (name, e) :: rest =>
    let found :=
      if excludedNames.contains name then []
      else below d (Path.join path name) e
    (name, found) :: belowEach d path rest

end

end Walk

def searchLimit : Nat := 50

/-- The configuration files below a directory, at most so many but at least one. -/
def findConfigs (d : Disk) (workspace : Text) (limit : Nat) : Except FileError (List Text) :=
  match d.locate workspace with
  | .ok (_, e) => .ok ((Walk.below d workspace e).take (max limit 1))
  | .error .nulCharacter => .error .nulCharacter
  | .error _ => .ok []

end SitePreview
