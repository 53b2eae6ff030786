import SitePreview.Text.Blank

namespace SitePreview.Path

def isAbsolute (p : Text) : Bool := p.head? == some '/'

/-- A second path that is absolute stands alone. -/
def join (p q : Text) : Text :=
  if isAbsolute q then q
  else if p = [] ∨ p.getLast? = some '/' then p ++ q
  else p ++ '/' :: q

def parts (p : Text) : List Text := partsAt '/' p

def names (p : Text) : List Text := (parts p).filter (· ≠ [])

def ofNames (ns : List Text) : Text := '/' :: ['/'].intercalate ns

def oneUp : Text := ['.', '.']

/-- Adds a part to names held newest first. Above the root there is nothing to go up to; a relative
path keeps what it cannot go up. -/
def collapseStep (rooted : Bool) (stack : List Text) (part : Text) : List Text :=
  if part = [] ∨ part = ['.'] then stack
  else if part = oneUp then
    match stack with
    | [] => if rooted then [] else [oneUp]
    | top :: rest => if top = oneUp then oneUp :: stack else rest
  else part :: stack

def collapse (rooted : Bool) (ps : List Text) : List Text :=
  (ps.foldl (collapseStep rooted) []).reverse

/-- The slashes that a path begins with: two count apart, any other number as one. -/
def leadingSlashes (p : Text) : Text :=
  match p with
  | '/' :: '/' :: '/' :: _ => ['/']
  | '/' :: '/' :: _ => ['/', '/']
  | '/' :: _ => ['/']
  | _ => []

def normalize (p : Text) : Text :=
  let found := leadingSlashes p ++ ['/'].intercalate (collapse (isAbsolute p) (parts p))
  if found = [] then ['.'] else found

def absolute (cwd p : Text) : Text := normalize (if isAbsolute p then p else join cwd p)

/-- The path up to its last slash, without slashes at its end unless it is nothing else. -/
def parent (p : Text) : Text :=
  let head := (p.reverse.dropWhile (· ≠ '/')).reverse
  let trimmed := (head.reverse.dropWhile (· = '/')).reverse
  if trimmed = [] then head else trimmed

def fileName (p : Text) : Text := (p.reverse.takeWhile (· ≠ '/')).reverse

/-- The last dot of the file name and what follows it; dots that begin the name do not count. -/
def extension (p : Text) : Text :=
  let name := (fileName p).reverse
  let tail := name.takeWhile (· ≠ '.')
  match name.dropWhile (· ≠ '.') with
  | [] => []
  | _ :: stem => if stem.all (· = '.') then [] else '.' :: tail.reverse

/-- How many names two lists begin with in common. -/
def sharedLength : List Text → List Text → Nat
  | a :: as, b :: bs => if a = b then sharedLength as bs + 1 else 0
  | _, _ => 0

def relative (cwd p directory : Text) : Text :=
  let here := names (absolute cwd directory)
  let there := names (absolute cwd p)
  let shared := sharedLength here there
  match List.replicate (here.length - shared) oneUp ++ there.drop shared with
  | [] => ['.']
  | way => ['/'].intercalate way

/-- The path without empty and single-dot parts, as it is shown to people. -/
def shown (p : Text) : Text :=
  let found := leadingSlashes p ++ ['/'].intercalate ((names p).filter (· ≠ ['.']))
  if found = [] then ['.'] else found

end SitePreview.Path
