import SitePreview.Pattern.Parser
import SitePreview.Pattern.Matcher

namespace SitePreview

structure Pattern where
  source : Text
  ignoreCase : Bool
  flags : PatternFlags
  widths : GroupWidths
  items : List PatternItem

namespace Pattern

def templateName : RepeatStyle → Text
  | .greedy => "MAX_REPEAT".toList
  | .lazy => "MIN_REPEAT".toList
  | .possessive => "POSSESSIVE_REPEAT".toList

/-- A look-behind must be of one width, and not too wide. -/
def lookBehindFault? (w : MatchWidth) : Option PatternReason :=
  if w.least > 0xffffffff then some .lookBehindTooFar
  else if w.least ≠ w.most then some .variableLookBehind
  else none

mutual

/-- The first fault that reading left to be found, in the order of the text. -/
def itemFault? (widths : GroupWidths) (template : Bool) : PatternItem → Option PatternReason
  | .group _ _ _ body => sequenceFault? widths template body
  | .atomic body => sequenceFault? widths template body
  | .repetition style _ _ body =>
    if template then some (.templateRepeat (templateName style))
    else sequenceFault? widths template body
  | .look behind _ body =>
    ((if behind then lookBehindFault? (sequenceWidth widths body).clamp else none).or
      (sequenceFault? widths template body))
  | .conditional _ yes no =>
    (sequenceFault? widths template yes).or (sequenceFault? widths template no)
  | .branch alternatives => alternativesFault? widths template alternatives
  | _ => none

def sequenceFault? (widths : GroupWidths) (template : Bool) :
    List PatternItem → Option PatternReason
  | [] => none
  | item :: rest => (itemFault? widths template item).or (sequenceFault? widths template rest)

def alternativesFault? (widths : GroupWidths) (template : Bool) :
    List (List PatternItem) → Option PatternReason
  | [] => none
  | a :: as => (sequenceFault? widths template a).or (alternativesFault? widths template as)

end

open PatternRead in
def readAll (fuel : Nat) : PatternRead (List PatternItem) := do
  refuseLoneEscape
  let items ← alternatives fuel false 0 []
  let r ← get
  if r.flags.ascii && r.flags.unicode then throw .clashingLetters
  if (← peek) ≠ [] then fail .unbalanced
  match r.mentions.find? fun (group, _) => r.widths.length ≤ group with
  | some (group, position) => throw (.malformed (.noSuchGroup group) (some position))
  | none => return items

def compile (support : PatternSupport) (source : Text) (ignoreCase : Bool) :
    Except PatternFault Pattern := do
  let (items, r) ← (readAll (2 * source.length + 5)).run
    { support, rest := source, flags := { ignoreCase := ignoreCase } }
  let flags := { r.flags with unicode := !r.flags.ascii }
  match sequenceFault? r.widths flags.template items with
  | some reason => throw (.malformed reason none)
  | none => return ⟨source, ignoreCase, flags, r.widths, items⟩

def search (pattern : Pattern) (text : Text) : Bool :=
  let s : Subject := (text.map Char.toNat).toArray
  let matcher := PatternMatcher.ofSequence pattern.widths s pattern.flags pattern.items
  (List.range (s.size + 1)).any fun start => (matcher { position := start } some).isSome

end Pattern

end SitePreview
