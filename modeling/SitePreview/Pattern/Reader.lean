import SitePreview.Pattern.Syntax
import SitePreview.Pattern.Fault

namespace SitePreview

/-- What reading a pattern relies on: the characters by their names, and how many groups can be open at
once. -/
structure PatternSupport where
  named? : Text → Option Char
  groupRoom : Nat

structure PatternReader where
  support : PatternSupport
  rest : Text
  position : Nat := 0
  flags : PatternFlags
  names : List (Text × Nat) := []
  /-- By group number, the whole pattern being group 0; `none` while a group is open. -/
  widths : GroupWidths := [none]
  /-- How many groups there were before the outermost look-behind that is being read. -/
  lookBehindGroups : Option Nat := none
  /-- Groups that a conditional names, with the position of the first mention. -/
  mentions : List (Nat × Nat) := []

abbrev PatternRead := StateT PatternReader (Except PatternFault)

namespace PatternRead

/-- What comes next: nothing, one character, or a backslash with the character after it. -/
def nextOf : Text → Text
  | [] => []
  | '\\' :: c :: _ => ['\\', c]
  | c :: _ => [c]

def peek : PatternRead Text := return nextOf (← get).rest

def fail {α : Type} (reason : PatternReason) (back : Nat := 0) : PatternRead α := do
  throw (.malformed reason (some ((← get).position - back)))

def refuseLoneEscape : PatternRead Unit := do
  let r ← get
  if r.rest = ['\\'] then fail .escapeAtEnd

def advance : PatternRead Text := do
  let r ← get
  let next := nextOf r.rest
  set { r with rest := r.rest.drop next.length, position := r.position + next.length }
  refuseLoneEscape
  return next

/-- Passes over a character if it comes next. -/
def accept (c : Char) : PatternRead Bool := do
  if (← peek) = [c] then
    let _ ← advance
    return true
  else return false

/-- At most so many characters of a class. -/
def upTo (ok : Char → Bool) : Nat → PatternRead Text
  | 0 => return []
  | n + 1 => do
    match ← peek with
    | [c] =>
      if ok c then
        let _ ← advance
        return c :: (← upTo ok n)
      else return []
    | _ => return []

def nameUntil (terminator : Char) (what : Text) : Nat → Text → PatternRead Text
  | 0, _ => fail .unexpectedEnd
  | fuel + 1, name => do
    let next ← advance
    if next = [] then
      if name = [] then fail (.missingName what)
      else fail (.unterminatedName terminator) name.length
    else if next = [terminator] then
      if name = [] then fail (.missingName what) 1 else return name
    else nameUntil terminator what fuel (name ++ next)

def name (terminator : Char) (what : String) : PatternRead Text := do
  nameUntil terminator what.toList ((← get).rest.length + 1) []

def groupName (terminator : Char) : PatternRead Text := do
  let found ← name terminator "group name"
  if isIdentifier found then return found else fail (.badGroupName found) (found.length + 1)

/-- The number that digits write; too many digits are refused. -/
def number (digits : Text) : PatternRead Nat :=
  if digits.length > digitLimit then throw (.tooManyDigits digits.length)
  else return Text.digitsValue digits

def openGroup (name : Option Text) : PatternRead Nat := do
  let r ← get
  let group := r.widths.length
  match name with
  | none => set { r with widths := r.widths ++ [none] }
  | some n =>
    match r.names.lookup n with
    | some earlier => fail (.groupRedefined n group earlier) (n.length + 1)
    | none => set { r with widths := r.widths ++ [none], names := (n, group) :: r.names }
  return group

def closeGroup (group : Nat) (body : List PatternItem) : PatternRead Unit := do
  modify fun r =>
    { r with widths := r.widths.set group (some (sequenceWidth r.widths body).clamp) }

/-- Each group that is open, of so many, takes room until it is closed. -/
def enterGroup (depth : Nat) : PatternRead Unit := do
  if (← get).support.groupRoom ≤ depth then throw .tooDeep

def isClosed (group : Nat) : PatternRead Bool := do
  return ((← get).widths[group]?.join).isSome

/-- A reference inside a look-behind must be to a group that was closed before it. -/
def checkLookBehind (group : Nat) : PatternRead Unit := do
  match (← get).lookBehindGroups with
  | none => return
  | some before =>
    if !(← isClosed group) then fail .openGroupReference
    if before ≤ group then fail .lookBehindReference

end PatternRead

end SitePreview
