import SitePreview.Files.Entry
import SitePreview.Files.Path
import SitePreview.Text.Quoted
import SitePreview.Text.Utf8

namespace SitePreview

structure Disk where
  root : Entry
  cwd : Text
  rooted : Path.isAbsolute cwd = true := by decide
  deriving Repr

inductive FileError where
  | missing
  | notDirectory
  | isDirectory
  | exists
  | nameTooLong
  | tooManyLinks
  | nulCharacter
  deriving DecidableEq, Repr

structure FileFault where
  error : FileError
  path : Text
  deriving DecidableEq, Repr

namespace FileFault

def describe (number : Nat) (what : String) (path : Text) : Text :=
  "[Errno ".toList ++ Text.ofNat number ++ "] ".toList ++ what.toList ++ ": ".toList ++
    Quoted.text path

def message (f : FileFault) : Text :=
  match f.error with
  | .missing => describe 2 "No such file or directory" f.path
  | .notDirectory => describe 20 "Not a directory" f.path
  | .isDirectory => describe 21 "Is a directory" f.path
  | .exists => describe 17 "File exists" f.path
  | .nameTooLong => describe 36 "File name too long" f.path
  | .tooManyLinks => describe 40 "Too many levels of symbolic links" f.path
  | .nulCharacter => "embedded null byte".toList

end FileFault

namespace Disk

/-- A working directory that does not say where it begins is read from the top. -/
def ofCurrent (root : Entry) (cwd : Text) : Disk :=
  if h : Path.isAbsolute cwd = true then { root, cwd, rooted := h }
  else { root, cwd := '/' :: cwd, rooted := rfl }

def ofTop (root : Entry) : Disk := { root, cwd := ['/'] }

def longestName : Nat := 255

def longestPath : Nat := 4095

def linkLimit : Nat := 40

def octetLength (s : Text) : Nat := (Utf8.encode s).length

/-- The names to go through for a path. A slash at the end asks for a directory. -/
def steps (p : Text) : List Text :=
  Path.names p ++ if p.getLast? = some '/' then [['.']] else []

/-- Goes on from a directory, whose names are held newest first. -/
def follow (root : Entry) (links : Nat) (here : List Text) :
    List Text → Except FileError (List Text × Entry)
  | [] =>
    match root.at? here.reverse with
    | some e => .ok (here.reverse, e)
    | none => .error .missing
  | name :: rest =>
    match root.at? here.reverse with
    | none => .error .missing
    | some (.directory entries) =>
      if name = ['.'] then follow root links here rest
      else if name = Path.oneUp then follow root links here.tail rest
      else if octetLength name > longestName then .error .nameTooLong
      else match entries.lookup name with
        | none => .error .missing
        | some (.link target) =>
          match links with
          | 0 => .error .tooManyLinks
          | fewer + 1 =>
            follow root fewer (if Path.isAbsolute target then [] else here) (steps target ++ rest)
        | some _ => follow root links (name :: here) rest
    | some _ => .error .notDirectory
termination_by todo => (links, todo.length)

def start (d : Disk) (p : Text) : List Text :=
  if Path.isAbsolute p then [] else (Path.names d.cwd).reverse

/-- The entry that a path leads to, with the names of its place. -/
def locate (d : Disk) (p : Text) : Except FileError (List Text × Entry) :=
  if p.contains '\x00' then .error .nulCharacter
  else if p = [] then .error .missing
  else if octetLength p > longestPath then .error .nameTooLong
  else follow d.root linkLimit (d.start p) (steps p)

def status (d : Disk) (p : Text) : Except FileFault Entry :=
  match d.locate p with
  | .ok (_, e) => .ok e
  | .error error => .error ⟨error, p⟩

/-- What a look-up found, or none where nothing is; other faults remain faults. -/
def presentOf : Except FileFault Entry → Except FileFault (Option Entry)
  | .ok e => .ok (some e)
  | .error ⟨.missing, _⟩ => .ok none
  | .error ⟨.notDirectory, _⟩ => .ok none
  | .error f => .error f

def status? (d : Disk) (p : Text) : Except FileFault (Option Entry) := presentOf (d.status p)

def isRegularFile (d : Disk) (p : Text) : Bool :=
  match d.status p with
  | .ok e => e.isRegular
  | .error _ => false

end Disk

end SitePreview
