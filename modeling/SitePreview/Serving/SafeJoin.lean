import SitePreview.Files.Canonical
import SitePreview.Text.Case
import SitePreview.Text.Percent

namespace SitePreview

def decodingRounds : Nat := 5

def revealed (segment : Text) : Text := Percent.decodeRounds decodingRounds segment

def isDots (part : Text) : Bool := part == ['.'] || part == Path.oneUp

/-- Whether escapes in a segment hide a dot segment. -/
def hidesDots (segment : Text) : Bool :=
  revealed segment != segment &&
    (partsAt '/' ((revealed segment).replace '\\' '/')).any isDots

def hidesNul (segment : Text) : Bool := (revealed segment).contains '\x00'

def segmentStep (stack : List Text) (segment : Text) : Option (List Text) :=
  if segment = [] ∨ segment = ['.'] then some stack
  else if segment = Path.oneUp then
    match stack with
    | [] => none
    | _ :: rest => some rest
  else if hidesNul segment || hidesDots segment then none
  else some (segment :: stack)

/-- The segments of a request path below the root, if it does not climb out of it. -/
def requestSegments (path : Text) : Option (List Text) :=
  let raw := path.replace '\\' '/'
  if raw.contains '\x00' then none
  else ((partsAt '/' raw).foldlM segmentStep []).map List.reverse

/-- Whether a path is a directory or lies below it, letter case left out. -/
def liesWithin (directory path : Text) : Bool :=
  let d := directory.lower
  let p := path.lower
  let bound := if d.getLast? = some '/' then d else d ++ ['/']
  p == d || bound.isPrefixOf p

def joinSegments (root : Text) (segments : List Text) : Text := segments.foldl Path.join root

/-- A path that is missing or empty asks for the root. -/
def requestedPath (path : Option Text) : Text :=
  match path with
  | some (c :: cs) => c :: cs
  | _ => ['/']

/-- The canonical path of a request path in a root, or none if it is refused. -/
def safeJoin (disk : Disk) (root : Text) (path : Option Text) :
    Except FileError (Option Text) :=
  match requestSegments (requestedPath path) with
  | none => .ok none
  | some segments => do
    let directory ← disk.canonical root
    let candidate ← disk.canonical (joinSegments directory segments)
    return if liesWithin directory candidate then some candidate else none

end SitePreview
