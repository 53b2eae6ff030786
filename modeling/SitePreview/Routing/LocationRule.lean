import SitePreview.Pattern.Compile

namespace SitePreview

/-- How a rule's matcher is compared with a path. Only a prefix can forbid a look at the patterns,
and only a pattern rule holds a compiled pattern. -/
inductive Selector where
  | exact
  | prefixed (final : Bool)
  | pattern (compiled : Pattern)

structure LocationRule where
  selector : Selector
  matcher : Text
  caseInsensitive : Bool := false
  proxyTarget : Option Text := none
  rootOverride : Option Text := none
  tryFiles : Option (List Text) := none

namespace LocationRule

def isExactFor (path : Text) (r : LocationRule) : Bool :=
  match r.selector with
  | .exact => r.matcher == path
  | _ => false

def isPrefixFor (path : Text) (r : LocationRule) : Bool :=
  match r.selector with
  | .prefixed _ => r.matcher.isPrefixOf path
  | _ => false

def isFoundBy (search : Pattern → Text → Bool) (path : Text) (r : LocationRule) : Bool :=
  match r.selector with
  | .pattern p => search p path
  | _ => false

def isFinal (r : LocationRule) : Bool :=
  match r.selector with
  | .prefixed final => final
  | _ => false

def modifier (r : LocationRule) : Text :=
  match r.selector with
  | .exact => ['=']
  | .pattern _ => if r.caseInsensitive then ['~', '*'] else ['~']
  | .prefixed final => if final then ['^', '~'] else []

def kindName (r : LocationRule) : Text :=
  match r.selector with
  | .exact => "exact".toList
  | .prefixed _ => "prefix".toList
  | .pattern _ => "regex".toList

def describe (r : LocationRule) : Text :=
  if r.modifier = [] then r.matcher else r.modifier ++ ' ' :: r.matcher

end LocationRule

section Longest

variable {α : Type} (size : α → Nat)

def longerOf (best : Option α) (a : α) : Option α :=
  match best with
  | none => some a
  | some b => if size b < size a then some a else some b

/-- The first of the longest. -/
def firstLongest (xs : List α) : Option α := xs.foldl (longerOf size) none

end Longest

section Pick

variable {α : Type} (rule : α → LocationRule)

def bestPrefixBy (xs : List α) (path : Text) : Option α :=
  firstLongest (fun a => (rule a).matcher.length) (xs.filter fun a => (rule a).isPrefixFor path)

/-- Picks by the rule that each element carries: an exact one; or the longest prefix if it is
final; or the first pattern that is found in the path; or the longest prefix. -/
def pickWith (search : Pattern → Text → Bool) (xs : List α) (path : Text) : Option α :=
  match xs.find? fun a => (rule a).isExactFor path with
  | some a => some a
  | none =>
    let best := bestPrefixBy rule xs path
    if best.any fun a => (rule a).isFinal then best
    else (xs.find? fun a => (rule a).isFoundBy search path).or best

def pickBy (xs : List α) (path : Text) : Option α := pickWith rule Pattern.search xs path

end Pick

def pickLocation (rules : List LocationRule) (path : Text) : Option LocationRule :=
  pickBy id rules path

end SitePreview
