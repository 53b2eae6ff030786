import SitePreview.Files.Disk

namespace SitePreview

inductive Canonical where
  | names (newestFirst : List Text)
  | looped (path : Text)
  deriving DecidableEq, Repr

namespace Disk

/-- The target of the link at a place, if one is there. A path too long to be asked for shows
none. -/
def linkAt? (root : Entry) (place : List Text) : Option Text :=
  if octetLength (Path.ofNames place.reverse) > longestPath then none
  else match root.at? place.reverse with
    | some (.link target) => some target
    | _ => none

/-- Goes on with the parts of a path from a place whose links are resolved. `within` holds the
links being resolved, and `fuel` bounds how many more may be. -/
def canonicalFrom (root : Entry) (fuel : Nat) (within : List (List Text)) (here : List Text) :
    List Text → Except FileError Canonical
  | [] => .ok (.names here)
  | part :: rest =>
    if part = [] ∨ part = ['.'] then canonicalFrom root fuel within here rest
    else if part = Path.oneUp then canonicalFrom root fuel within here.tail rest
    else if part.contains '\x00' then .error .nulCharacter
    else
      let place := part :: here
      match linkAt? root place with
      | none => canonicalFrom root fuel within place rest
      | some target =>
        let kept (p : Text) := Canonical.looped (Path.join p (['/'].intercalate rest))
        if within.contains place then .ok (kept (Path.ofNames place.reverse))
        else match fuel with
          | 0 => .ok (kept (Path.ofNames place.reverse))
          | less + 1 =>
            let from' := if Path.isAbsolute target then [] else here
            match canonicalFrom root less (place :: within) from' (Path.parts target) with
            | .error e => .error e
            | .ok (.looped p) => .ok (kept p)
            | .ok (.names there) => canonicalFrom root (less + 1) within there rest
termination_by ps => (fuel, ps.length)

def canonical (d : Disk) (p : Text) : Except FileError Text :=
  match canonicalFrom d.root (d.root.linkCount + 1) [] (d.start p) (Path.parts p) with
  | .error e => .error e
  | .ok (.names ns) => .ok (Path.ofNames ns.reverse)
  | .ok (.looped q) => .ok (Path.absolute d.cwd q)

end Disk

end SitePreview
