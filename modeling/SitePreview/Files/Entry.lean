import SitePreview.Text.Basic

namespace SitePreview

inductive Entry where
  | file (content : Bytes)
  | directory (entries : List (Text × Entry))
  | link (target : Text)
  | pipe
  deriving Repr, Inhabited

namespace Entry

def child? (e : Entry) (name : Text) : Option Entry :=
  match e with
  | directory entries => entries.lookup name
  | _ => none

/-- The entry that names lead to without following links. -/
def at? (e : Entry) : List Text → Option Entry
  | [] => some e
  | name :: names => (e.child? name).bind fun c => c.at? names

def isRegular : Entry → Bool
  | file _ => true
  | _ => false

def isDirectory : Entry → Bool
  | directory _ => true
  | _ => false

def entries : Entry → List (Text × Entry)
  | directory es => es
  | _ => []

def setName (name : Text) (new : Entry) (es : List (Text × Entry)) : List (Text × Entry) :=
  if es.any fun p => p.1 = name then es.map fun p => if p.1 = name then (name, new) else p
  else es ++ [(name, new)]

/-- Puts an entry where names lead to, with the directories on the way. -/
def put (new : Entry) : List Text → Entry → Entry
  | [], _ => new
  | name :: names, e =>
    directory (setName name (put new names ((e.child? name).getD (directory []))) e.entries)

def erase : List Text → Entry → Entry
  | [], e => e
  | [name], e =>
    match e with
    | directory es => directory (es.filter fun p => p.1 ≠ name)
    | other => other
  | name :: names, e =>
    match e.child? name with
    | some c => directory (setName name (c.erase names) e.entries)
    | none => e

mutual

def linkCount : Entry → Nat
  | link _ => 1
  | directory es => linkCountAll es
  | _ => 0

def linkCountAll : List (Text × Entry) → Nat
  | [] => 0
  | (_, e) :: rest => e.linkCount + linkCountAll rest

end

end Entry

end SitePreview
