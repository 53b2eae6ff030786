import SitePreview.Fields.RuleRecord

namespace SitePreview

/-- The fields of a rule and the pattern that came with them. -/
structure RuleFields extends LocationRule.Draft where
  compiled : Option Pattern

structure PatternMissing where
  matcher : Text
  deriving DecidableEq, Repr

namespace RuleFields

def checked (f : RuleFields) : Checked LocationRule := f.toDraft.rule f.compiled

def bestPrefix (fs : List RuleFields) (path : Text) : Option RuleFields :=
  firstLongest (fun f => f.matcher.length)
    (fs.filter fun f => f.kind = .prefixed && f.matcher.isPrefixOf path)

def firstFound (search : Pattern → Text → Bool) (path : Text) :
    List RuleFields → Except PatternMissing (Option RuleFields)
  | [] => .ok none
  | f :: fs =>
    if f.kind = .pattern then
      match f.compiled with
      | none => .error ⟨f.matcher⟩
      | some p => if search p path then .ok (some f) else firstFound search path fs
    else firstFound search path fs

/-- Picks the rule for a path. The patterns are searched only if there is neither an exact rule nor
a final prefix. -/
def pick (search : Pattern → Text → Bool) (fs : List RuleFields) (path : Text) :
    Except PatternMissing (Option RuleFields) :=
  match fs.find? fun f => f.kind = .exact && f.matcher == path with
  | some f => .ok (some f)
  | none =>
    let best := bestPrefix fs path
    if best.any fun f => f.final then .ok best
    else (firstFound search path fs).map fun found => found.or best

end RuleFields

end SitePreview
