import SitePreview.Text.Basic

namespace SitePreview

/-- Options of a pattern or of a group in it. `ascii` and `unicode` say how letters are classed. -/
structure PatternFlags where
  ignoreCase : Bool := false
  multiline : Bool := false
  dotAll : Bool := false
  verbose : Bool := false
  ascii : Bool := false
  unicode : Bool := false
  template : Bool := false
  deriving DecidableEq, Repr

namespace PatternFlags

def letter? : Char → Option PatternFlags
  | 'i' => some { ignoreCase := true }
  | 'm' => some { multiline := true }
  | 's' => some { dotAll := true }
  | 'x' => some { verbose := true }
  | 'a' => some { ascii := true }
  | 'u' => some { unicode := true }
  | 't' => some { template := true }
  | _ => none

def union (a b : PatternFlags) : PatternFlags where
  ignoreCase := a.ignoreCase || b.ignoreCase
  multiline := a.multiline || b.multiline
  dotAll := a.dotAll || b.dotAll
  verbose := a.verbose || b.verbose
  ascii := a.ascii || b.ascii
  unicode := a.unicode || b.unicode
  template := a.template || b.template

def without (a b : PatternFlags) : PatternFlags where
  ignoreCase := a.ignoreCase && !b.ignoreCase
  multiline := a.multiline && !b.multiline
  dotAll := a.dotAll && !b.dotAll
  verbose := a.verbose && !b.verbose
  ascii := a.ascii && !b.ascii
  unicode := a.unicode && !b.unicode
  template := a.template && !b.template

def overlaps (a b : PatternFlags) : Bool :=
  (a.ignoreCase && b.ignoreCase) || (a.multiline && b.multiline) || (a.dotAll && b.dotAll) ||
    (a.verbose && b.verbose) || (a.ascii && b.ascii) || (a.unicode && b.unicode) ||
    (a.template && b.template)

def choosesLetters (a : PatternFlags) : Bool := a.ascii || a.unicode

/-- The options inside a group that adds and removes some: a choice of letters replaces the outer
choice. -/
def inside (outer added removed : PatternFlags) : PatternFlags :=
  let outer :=
    if added.choosesLetters then { outer with ascii := false, unicode := false } else outer
  (outer.union added).without removed

end PatternFlags

inductive CharKind where
  | digit
  | space
  | word
  deriving DecidableEq, Repr

/-- A member of a bracketed set. Characters are code points, since an escape may name any number. -/
inductive SetMember where
  | one (code : Nat)
  | span (first last : Nat)
  | kind (kind : CharKind) (negated : Bool)
  deriving DecidableEq, Repr

inductive Anchor where
  | lineStart
  | lineEnd
  | textStart
  | textEnd
  | wordEdge
  | notWordEdge
  deriving DecidableEq, Repr

inductive RepeatStyle where
  | greedy
  | lazy
  | possessive
  deriving DecidableEq, Repr

/-- One item of a pattern; a sequence is a list of items. Groups are numbered from 1. -/
inductive PatternItem where
  | literal (code : Nat)
  | notLiteral (code : Nat)
  | any
  | set (negated : Bool) (members : List SetMember)
  | anchor (anchor : Anchor)
  | backref (group : Nat)
  | group (number : Option Nat) (added removed : PatternFlags) (body : List PatternItem)
  | atomic (body : List PatternItem)
  | repetition (style : RepeatStyle) (least : Nat) (most : Option Nat) (body : List PatternItem)
  | look (behind negated : Bool) (body : List PatternItem)
  | conditional (group : Nat) (yes no : List PatternItem)
  | branch (alternatives : List (List PatternItem))
  deriving Repr, Inhabited

namespace PatternItem

def isAnchor : PatternItem → Bool
  | anchor _ => true
  | _ => false

def isRepetition : PatternItem → Bool
  | repetition .. => true
  | _ => false

/-- Whether two items are the same single step, which may then be read before an alternation. -/
def sameStep : PatternItem → PatternItem → Bool
  | literal a, literal b => a == b
  | notLiteral a, notLiteral b => a == b
  | any, any => true
  | set n ms, set n' ms' => n == n' && ms == ms'
  | anchor a, anchor b => a == b
  | backref a, backref b => a == b
  | _, _ => false

/-- The members when the item is a set of characters that is not negated. -/
def members? : PatternItem → Option (List SetMember)
  | literal c => some [.one c]
  | set false ms => some ms
  | _ => none

/-- The body of a group that neither captures nor changes an option. -/
def plainGroup? : PatternItem → Option (List PatternItem)
  | group none added removed body => if added = {} ∧ removed = {} then some body else none
  | _ => none

end PatternItem

/-- The least and the greatest number of characters that something matches. -/
structure MatchWidth where
  least : Nat
  most : Nat
  deriving DecidableEq, Repr

/-- Stands for a width without a bound. -/
def unboundedWidth : Nat := 0x10000000000000000

namespace MatchWidth

def clamp (w : MatchWidth) : MatchWidth := ⟨min w.least unboundedWidth, min w.most unboundedWidth⟩

def add (a b : MatchWidth) : MatchWidth := ⟨a.least + b.least, a.most + b.most⟩

def either (a b : MatchWidth) : MatchWidth := ⟨min a.least b.least, max a.most b.most⟩

def times (w : MatchWidth) (least : Nat) (most : Option Nat) : MatchWidth :=
  ⟨w.least * least,
    match most with
    | none => if w.most = 0 then 0 else unboundedWidth
    | some n => w.most * n⟩

end MatchWidth

/-- The widths of the groups that are closed, by number. -/
abbrev GroupWidths := List (Option MatchWidth)

def groupWidth (widths : GroupWidths) (group : Nat) : MatchWidth :=
  (widths[group]?.join).getD ⟨0, 0⟩

mutual

def PatternItem.width (widths : GroupWidths) : PatternItem → MatchWidth
  | .literal _ => ⟨1, 1⟩
  | .notLiteral _ => ⟨1, 1⟩
  | .any => ⟨1, 1⟩
  | .set _ _ => ⟨1, 1⟩
  | .anchor _ => ⟨0, 0⟩
  | .backref g => groupWidth widths g
  | .group _ _ _ body => (sequenceWidth widths body).clamp
  | .atomic body => (sequenceWidth widths body).clamp
  | .repetition _ least most body => ((sequenceWidth widths body).clamp).times least most
  | .look _ _ _ => ⟨0, 0⟩
  | .conditional _ yes no =>
    ((sequenceWidth widths yes).clamp).either (sequenceWidth widths no).clamp
  | .branch alternatives => alternativesWidth widths alternatives

def sequenceWidth (widths : GroupWidths) : List PatternItem → MatchWidth
  | [] => ⟨0, 0⟩
  | item :: rest => (item.width widths).add (sequenceWidth widths rest)

def alternativesWidth (widths : GroupWidths) : List (List PatternItem) → MatchWidth
  | [] => ⟨unboundedWidth, 0⟩
  | a :: as => ((sequenceWidth widths a).clamp).either (alternativesWidth widths as)

end

end SitePreview
