import SitePreview.Pattern.Charset

namespace SitePreview

/-- How far matching has come, and where each group began and ended when it was last entered. -/
structure MatchPlace where
  position : Nat
  starts : List (Nat × Nat) := []
  ends : List (Nat × Nat) := []
  deriving Repr

/-- From a place to a place, by way of what follows. -/
abbrev PatternMatcher :=
  MatchPlace → (MatchPlace → Option MatchPlace) → Option MatchPlace

namespace MatchPlace

def mark (table : List (Nat × Nat)) (group position : Nat) : List (Nat × Nat) :=
  (group, position) :: table.filter fun e => e.1 != group

/-- The bounds of what a group matched, if it has matched. -/
def groupSpan? (p : MatchPlace) (group : Nat) : Option (Nat × Nat) :=
  match p.starts.lookup group, p.ends.lookup group with
  | some a, some b => if a ≤ b then some (a, b) else none
  | _, _ => none

end MatchPlace

abbrev Subject := Array Nat

namespace PatternMatcher

def isNewlineAt (s : Subject) (i : Nat) : Bool := s[i]? == some 10

def isWordAt (flags : PatternFlags) (s : Subject) (i : Nat) : Bool :=
  match s[i]? with
  | some n => CharKind.word.holds flags.unicode n
  | none => false

def isWordEdge (flags : PatternFlags) (s : Subject) (i : Nat) : Bool :=
  (i != 0 && isWordAt flags s (i - 1)) != isWordAt flags s i

/-- Word edges are told apart only in a subject that is not empty. -/
def anchorHolds (flags : PatternFlags) (s : Subject) (i : Nat) : Anchor → Bool
  | .lineStart => i == 0 || (flags.multiline && isNewlineAt s (i - 1))
  | .lineEnd =>
    i == s.size || (isNewlineAt s i && (flags.multiline || i + 1 == s.size))
  | .textStart => i == 0
  | .textEnd => i == s.size
  | .wordEdge => s.size != 0 && isWordEdge flags s i
  | .notWordEdge => s.size != 0 && !isWordEdge flags s i

def oneChar (s : Subject) (accepts : Nat → Bool) : PatternMatcher := fun p k =>
  match s[p.position]? with
  | some n => if accepts n then k { p with position := p.position + 1 } else none
  | none => none

def sameChar (flags : PatternFlags) (a b : Nat) : Bool :=
  if flags.ignoreCase then
    let f : CaseFold := ⟨flags.unicode⟩
    f.lower a == f.lower b
  else a == b

/-- What a group matched, once more. -/
def again (flags : PatternFlags) (s : Subject) (group : Nat) : PatternMatcher := fun p k =>
  match p.groupSpan? group with
  | none => none
  | some (a, b) =>
    let same := (List.range (b - a)).all fun i =>
      match s[a + i]?, s[p.position + i]? with
      | some x, some y => sameChar flags y x
      | _, _ => false
    if same then k { p with position := p.position + (b - a) } else none

/-- Another round is allowed below the upper bound, and only if the last round, begun at `last`,
has moved on. -/
def mayRepeat (most : Option Nat) (count : Nat) (last : Option Nat) (p : MatchPlace) : Bool :=
  (match most with
    | none => true
    | some n => count < n) && last != some p.position

def greedy (body : PatternMatcher) (least : Nat) (most : Option Nat)
    (k : MatchPlace → Option MatchPlace) :
    Nat → Nat → Option Nat → MatchPlace → Option MatchPlace
  | 0, _, _, p => k p
  | fuel + 1, count, last, p =>
    if count < least then body p (greedy body least most k fuel (count + 1) last)
    else
      let more :=
        if mayRepeat most count last p then
          body p (greedy body least most k fuel (count + 1) (some p.position))
        else none
      match more with
      | some q => some q
      | none => k p

def lazy (body : PatternMatcher) (least : Nat) (most : Option Nat)
    (k : MatchPlace → Option MatchPlace) :
    Nat → Nat → Option Nat → MatchPlace → Option MatchPlace
  | 0, _, _, p => k p
  | fuel + 1, count, last, p =>
    if count < least then body p (lazy body least most k fuel (count + 1) last)
    else match k p with
      | some q => some q
      | none =>
        if mayRepeat most count last p then
          body p (lazy body least most k fuel (count + 1) (some p.position))
        else none

/-- Takes each round once and for good. -/
def possessive (body : PatternMatcher) (least : Nat) (most : Option Nat) :
    Nat → Nat → Option Nat → MatchPlace → Option MatchPlace
  | 0, _, _, p => some p
  | fuel + 1, count, last, p =>
    if count < least then
      match body p some with
      | some q => possessive body least most fuel (count + 1) last q
      | none => none
    else if mayRepeat most count last p then
      match body p some with
      | some q => possessive body least most fuel (count + 1) (some p.position) q
      | none => some p
    else some p

def repetition (s : Subject) (style : RepeatStyle) (least : Nat) (most : Option Nat)
    (body : PatternMatcher) : PatternMatcher := fun p k =>
  let fuel := least + 2 * s.size + 2
  match style with
  | .greedy => greedy body least most k fuel 0 none p
  | .lazy => lazy body least most k fuel 0 none p
  | .possessive => (possessive body least most fuel 0 none p).bind k

/-- The first way on which a body matches stands for all of them. -/
def atomic (body : PatternMatcher) : PatternMatcher := fun p k => (body p some).bind k

/-- Looks ahead, or behind from as many characters before as the body is wide. -/
def look (back : Nat) (negated : Bool) (body : PatternMatcher) : PatternMatcher := fun p k =>
  let seen := if back ≤ p.position then body { p with position := p.position - back } some else none
  match seen, negated with
  | some q, false => k { q with position := p.position }
  | none, true => k p
  | _, _ => none

def capture (group : Nat) (body : PatternMatcher) : PatternMatcher := fun p k =>
  body { p with starts := MatchPlace.mark p.starts group p.position } fun q =>
    k { q with ends := MatchPlace.mark q.ends group q.position }

mutual

def ofItem (widths : GroupWidths) (s : Subject) (flags : PatternFlags) :
    PatternItem → PatternMatcher
  | .literal c => oneChar s (literalAccepts flags c)
  | .notLiteral c => oneChar s fun n => !literalAccepts flags c n
  | .any => oneChar s fun n => flags.dotAll || n != 10
  | .set negated members => oneChar s (setAccepts flags negated members)
  | .anchor a => fun p k => if anchorHolds flags s p.position a then k p else none
  | .backref g => again flags s g
  | .group (some g) added removed body =>
    capture g (ofSequence widths s (flags.inside added removed) body)
  | .group none added removed body => ofSequence widths s (flags.inside added removed) body
  | .atomic body => atomic (ofSequence widths s flags body)
  | .repetition style least most body =>
    repetition s style least most (ofSequence widths s flags body)
  | .look behind negated body =>
    look (if behind then (sequenceWidth widths body).least else 0) negated
      (ofSequence widths s flags body)
  | .conditional g yes no => fun p k =>
    if (p.groupSpan? g).isSome then ofSequence widths s flags yes p k
    else ofSequence widths s flags no p k
  | .branch alternatives => ofAlternatives widths s flags alternatives

def ofSequence (widths : GroupWidths) (s : Subject) (flags : PatternFlags) :
    List PatternItem → PatternMatcher
  | [] => fun p k => k p
  | item :: rest => fun p k =>
    ofItem widths s flags item p fun q => ofSequence widths s flags rest q k

def ofAlternatives (widths : GroupWidths) (s : Subject) (flags : PatternFlags) :
    List (List PatternItem) → PatternMatcher
  | [] => fun _ _ => none
  | a :: as => fun p k =>
    match ofSequence widths s flags a p k with
    | some q => some q
    | none => ofAlternatives widths s flags as p k

end

end PatternMatcher

end SitePreview
