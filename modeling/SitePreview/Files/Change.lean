import SitePreview.Files.Canonical

namespace SitePreview.Disk

/-- The names of the place of a path: links on the way are followed, the last name is not. -/
def placeOf (d : Disk) (p : Text) : Except FileError (List Text) := do
  let whole := Path.absolute d.cwd p
  let above ← d.canonical (Path.parent whole)
  return Path.names above ++ [Path.fileName whole]

def putAt (d : Disk) (place : List Text) (e : Entry) : Disk :=
  { d with root := Entry.put e place d.root }

/-- Puts an entry in place of whatever a path names. Missing directories are made. -/
def add (d : Disk) (p : Text) (e : Entry) : Disk :=
  match d.placeOf p with
  | .ok place => d.putAt place e
  | .error _ => d

def remove (d : Disk) (p : Text) : Disk :=
  match d.placeOf p with
  | .ok place => { d with root := d.root.erase place }
  | .error _ => d

def makeDirectory (d : Disk) (p : Text) : Except FileFault Disk :=
  let fault (error : FileError) : FileFault := ⟨error, p⟩
  if p.contains '\x00' then .error (fault .nulCharacter)
  else if octetLength p > longestPath then .error (fault .nameTooLong)
  else
    match follow d.root linkLimit (d.start p) (Path.names p).dropLast with
    | .error e => .error (fault e)
    | .ok (place, .directory entries) =>
      match (Path.names p).getLast? with
      | none => .error (fault .exists)
      | some name =>
        if name = ['.'] ∨ name = Path.oneUp then .error (fault .exists)
        else if octetLength name > longestName then .error (fault .nameTooLong)
        else if (entries.lookup name).isSome then .error (fault .exists)
        else .ok (d.putAt (place ++ [name]) (.directory []))
    | .ok _ => .error (fault .notDirectory)

/-- Whether a path leads to a directory. Only a path that cannot be looked up is a fault. -/
def isDirectory (d : Disk) (p : Text) : Except FileFault Bool :=
  match d.status p with
  | .ok e => .ok e.isDirectory
  | .error ⟨.nameTooLong, q⟩ => .error ⟨.nameTooLong, q⟩
  | .error _ => .ok false

def shownParent (p : Text) : Text :=
  if Path.parent p = [] then ['.'] else Path.parent p

/-- Makes a directory and those above it that are missing; a directory that exists is left. -/
def ensureDirectoryWithin (d : Disk) (p : Text) : Nat → Except FileFault Disk
  | 0 => .error ⟨.missing, p⟩
  | depth + 1 =>
    match d.makeDirectory p with
    | .ok changed => .ok changed
    | .error ⟨.missing, _⟩ =>
      if shownParent p = p then .error ⟨.missing, p⟩
      else do
        let made ← ensureDirectoryWithin d (shownParent p) depth
        match made.makeDirectory p with
        | .ok changed => return changed
        | .error f => if ← made.isDirectory p then return made else .error f
    | .error f => do if ← d.isDirectory p then return d else .error f

def ensureDirectory (d : Disk) (p : Text) : Except FileFault Disk :=
  d.ensureDirectoryWithin (Path.shown p) ((Path.names p).length + 1)

end SitePreview.Disk
