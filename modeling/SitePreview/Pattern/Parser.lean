import SitePreview.Pattern.Reader
import SitePreview.Text.WrittenNumber

namespace SitePreview.PatternRead

def isOctal (c : Char) : Bool := '0' ≤ c && c ≤ '7'

def isHex (c : Char) : Bool := (Text.hexValue? c).isSome

def isAsciiLetterChar (c : Char) : Bool := isAsciiLetter c.toNat

def octalValue (digits : Text) : Nat := digits.foldl (fun n c => 8 * n + (c.toNat - 48)) 0

/-- What an escape stands for inside or outside of a bracketed set. -/
inductive EscapeValue where
  | code (code : Nat)
  | kind (kind : CharKind) (negated : Bool)

def kindEscape? : Char → Option EscapeValue
  | 'd' => some (.kind .digit false)
  | 'D' => some (.kind .digit true)
  | 's' => some (.kind .space false)
  | 'S' => some (.kind .space true)
  | 'w' => some (.kind .word false)
  | 'W' => some (.kind .word true)
  | _ => none

def anchorEscape? : Char → Option Anchor
  | 'A' => some .textStart
  | 'Z' => some .textEnd
  | 'b' => some .wordEdge
  | 'B' => some .notWordEdge
  | _ => none

def controlEscape? : Char → Option Nat
  | 'a' => some 7
  | 'b' => some 8
  | 'f' => some 12
  | 'n' => some 10
  | 'r' => some 13
  | 't' => some 9
  | 'v' => some 11
  | '\\' => some 92
  | _ => none

/-- An escape of exactly so many hexadecimal digits. -/
def hexEscape (escape : Text) (width : Nat) : PatternRead Text := do
  let digits ← upTo isHex width
  if digits.length = width then return digits
  else fail (.incompleteEscape (escape ++ digits)) (escape ++ digits).length

def namedCharacter : PatternRead Nat := do
  if !(← accept '\x7b') then fail .missingBrace
  let found ← name '\x7d' "character name"
  match (← get).support.named? found with
  | some c => return c.toNat
  | none => fail (.unknownCharacterName found) (found.length + 4)

def codeEscape? (c : Char) : PatternRead (Option Nat) := do
  let escape := ['\\', c]
  match c with
  | 'x' => return some (Text.hexDigitsValue (← hexEscape escape 2))
  | 'u' => return some (Text.hexDigitsValue (← hexEscape escape 4))
  | 'U' =>
    let digits ← hexEscape escape 8
    let n := Text.hexDigitsValue digits
    if n < 0x110000 then return some n
    else if n < 0x80000000 then fail (.badEscape (escape ++ digits)) 10
    else throw .codeTooLarge
  | 'N' => return some (← namedCharacter)
  | _ => return none

def octalByte (escape digits : Text) : PatternRead Nat :=
  let n := octalValue digits
  if n > 0o377 then fail (.octalOutOfRange escape) escape.length else return n

/-- An escape of one character that has no meaning of its own stands for the character, unless that
is a letter. -/
def plainEscape (c : Char) : PatternRead Nat :=
  if isAsciiLetterChar c then fail (.badEscape ['\\', c]) 2 else return c.toNat

def setEscape (c : Char) : PatternRead EscapeValue := do
  if let some n := controlEscape? c then return .code n
  if let some v := kindEscape? c then return v
  if let some n ← codeEscape? c then return .code n
  if isOctal c then
    let digits := c :: (← upTo isOctal 2)
    return .code (← octalByte ('\\' :: digits) digits)
  if Text.isDigit c then fail (.badEscape ['\\', c]) 2
  return .code (← plainEscape c)

def backref (digits : Text) : PatternRead PatternItem := do
  let group := Text.digitsValue digits
  if group < (← get).widths.length then
    if !(← isClosed group) then fail .openGroupReference (digits.length + 1)
    checkLookBehind group
    return .backref group
  else fail (.noSuchGroup group) digits.length

/-- Two digits or one refer to a group; three octal digits write a code point. -/
def digitEscape (c : Char) : PatternRead PatternItem := do
  match ← upTo Text.isDigit 1 with
  | [d] =>
    if isOctal c && isOctal d then
      match ← upTo isOctal 1 with
      | [e] => return .literal (← octalByte ['\\', c, d, e] [c, d, e])
      | _ => backref [c, d]
    else backref [c, d]
  | _ => backref [c]

def itemEscape (c : Char) : PatternRead PatternItem := do
  if let some a := anchorEscape? c then return .anchor a
  if let some (.kind k negated) := kindEscape? c then return .set false [.kind k negated]
  if let some n := controlEscape? c then return .literal n
  if let some n ← codeEscape? c then return .literal n
  if c = '0' then
    let digits ← upTo isOctal 2
    return .literal (octalValue digits)
  if Text.isDigit c then digitEscape c
  else return .literal (← plainEscape c)

def EscapeValue.member : EscapeValue → SetMember
  | code n => .one n
  | kind k negated => .kind k negated

def setElement (step : Text) : PatternRead EscapeValue :=
  match step with
  | '\\' :: c :: _ => setEscape c
  | c :: _ => return .code c.toNat
  | [] => return .code 0

/-- The members of a bracketed set up to its closing bracket, which may come first as a member. -/
def setMembers (start : Nat) : Nat → List SetMember → PatternRead (List SetMember)
  | 0, _ => fail .unterminatedSet
  | fuel + 1, members => do
    let unterminated : PatternRead (List SetMember) := do
      fail .unterminatedSet ((← get).position - start)
    let step ← advance
    if step = [] then unterminated
    else if step = [']'] && !members.isEmpty then return members
    else
      let first ← setElement step
      if ← accept '-' then
        let last ← advance
        if last = [] then unterminated
        else if last = [']'] then return members ++ [first.member, .one '-'.toNat]
        else
          let bad := fail (.badRange step last) (step.length + 1 + last.length)
          match first, ← setElement last with
          | .code a, .code b =>
            if b < a then bad else setMembers start fuel (members ++ [.span a b])
          | _, _ => bad
      else setMembers start fuel (members ++ [first.member])

/-- A set of one character is that character. -/
def setItem (negated : Bool) (members : List SetMember) : PatternItem :=
  match members.eraseDups with
  | [.one c] => if negated then .notLiteral c else .literal c
  | ms => .set negated ms

def bracketed : PatternRead PatternItem := do
  let start := (← get).position - 1
  let negated ← accept '^'
  let members ← setMembers start ((← get).rest.length + 1) []
  return setItem negated members

/-- The bounds that a brace opens; without well-formed bounds the brace is an ordinary character. -/
def braceBounds : PatternRead (Option (Nat × Option Nat)) := do
  let here ← get
  if (← peek) = ['\x7d'] then return none
  let fuel := here.rest.length
  let low ← upTo Text.isDigit fuel
  let high ← if ← accept ',' then upTo Text.isDigit fuel else pure low
  if !(← accept '\x7d') then
    set here
    return none
  let bound (digits : Text) : PatternRead Nat := do
    let n ← number digits
    if n ≥ 4294967295 then throw .repetitionTooLarge else return n
  let least ← if low = [] then pure 0 else bound low
  if high = [] then return some (least, none)
  let most ← bound high
  if most < least then
    throw (.malformed .leastAboveMost (some here.position))
  return some (least, some most)

/-- Repeats the last item read. `position` is where the repetition sign stands. -/
def repeatLast (position least : Nat) (most : Option Nat) (items : List PatternItem) :
    PatternRead (List PatternItem) := do
  match items.getLast? with
  | none => throw (.malformed .nothingToRepeat (some position))
  | some item =>
    if item.isAnchor then throw (.malformed .nothingToRepeat (some position))
    if item.isRepetition then throw (.malformed .multipleRepeat (some position))
    let body := (item.plainGroup?).getD [item]
    let style : RepeatStyle ← do
      if ← accept '?' then pure .lazy
      else if ← accept '+' then pure .possessive
      else pure .greedy
    return items.dropLast ++ [.repetition style least most body]

def isFlagLetter (step : Text) : Bool :=
  match step with
  | [c] => c = 'L' || (PatternFlags.letter? c).isSome
  | _ => false

def isLetterStep (step : Text) : Bool :=
  match step with
  | [c] => isLetterCode c.toNat
  | _ => false

def flagsOn : Nat → Text → PatternFlags → PatternRead (PatternFlags × Text)
  | 0, _, _ => fail .unexpectedEnd
  | fuel + 1, step, flags => do
    let added ← match step with
      | ['L'] => fail .localeFlag
      | [c] => pure ((PatternFlags.letter? c).getD {})
      | _ => pure {}
    let flags := flags.union added
    if added.choosesLetters && flags.ascii && flags.unicode then fail .clashingFlags
    let next ← advance
    if next = [] then fail .missingFlagEnd
    else if next = [')'] || next = ['-'] || next = [':'] then return (flags, next)
    else if isFlagLetter next then flagsOn fuel next flags
    else fail (if isLetterStep next then .unknownFlag else .missingFlagEnd) next.length

def flagsOff : Nat → Text → PatternFlags → PatternRead PatternFlags
  | 0, _, _ => fail .unexpectedEnd
  | fuel + 1, step, flags => do
    let removed ← match step with
      | ['L'] => fail .lettersFlagOff
      | [c] => pure ((PatternFlags.letter? c).getD {})
      | _ => pure {}
    if removed.choosesLetters then fail .lettersFlagOff
    let flags := flags.union removed
    let next ← advance
    if next = [] then fail .missingColon
    else if next = [':'] then return flags
    else if isFlagLetter next then flagsOff fuel next flags
    else fail (if isLetterStep next then .unknownFlag else .missingColon) next.length

/-- The flags of a group, or none if they were for the whole pattern. -/
def groupFlags (step : Text) : PatternRead (Option (PatternFlags × PatternFlags)) := do
  let fuel := (← get).rest.length + 1
  let (added, stop) ← if step = ['-'] then pure ({}, step) else flagsOn fuel step {}
  if stop = [')'] then
    modify fun r => { r with flags := r.flags.union added }
    return none
  if added.template then fail .globalFlagOn 1
  let removed ←
    if stop = ['-'] then do
      let first ← advance
      if first = [] then fail .missingFlag
      if !isFlagLetter first then
        fail (if isLetterStep first then .unknownFlag else .missingFlag) first.length
      flagsOff fuel first {}
    else pure {}
  if removed.template then fail .globalFlagOff 1
  if added.overlaps removed then fail .flagOnAndOff 1
  return some (added, removed)

/-- What an opening parenthesis begins. -/
inductive GroupStart where
  | nothing
  | item (item : PatternItem)
  | capture (name : Option Text)
  | plain (added removed : PatternFlags)
  | atomic
  | look (behind negated : Bool)
  | conditional (group : Nat)

def commentEnd (start : Nat) : Nat → PatternRead Unit
  | 0 => fail .unterminatedComment
  | fuel + 1 => do
    if (← peek) = [] then throw (.malformed .unterminatedComment (some start))
    if (← advance) = [')'] then return
    commentEnd start fuel

def namedGroupStart : PatternRead GroupStart := do
  if ← accept '<' then
    return .capture (some (← groupName '>'))
  if ← accept '=' then
    let found ← groupName ')'
    match (← get).names.lookup found with
    | none => fail (.unknownGroup found) (found.length + 1)
    | some group =>
      if !(← isClosed group) then fail .openGroupReference (found.length + 1)
      checkLookBehind group
      return .item (.backref group)
  let step ← advance
  if step = [] then fail .unexpectedEnd
  fail (.unknownExtension ('P' :: step)) (step.length + 2)

def conditionalStart : PatternRead GroupStart := do
  let found ← name ')' "group name"
  let back := found.length + 1
  let group ←
    if isIdentifier found then
      match (← get).names.lookup found with
      | some group => pure group
      | none => fail (.unknownGroup found) back
    else
      match writtenNumber? found with
      | some (.ofNat 0) => fail .zeroGroup back
      | some (.ofNat group) => do
        if group ≥ 1073741823 then fail (.noSuchGroup group) back
        let r ← get
        if (r.mentions.lookup group).isNone then
          set { r with mentions := r.mentions ++ [(group, r.position - back)] }
        pure group
      | _ => fail (.badGroupName found) back
  checkLookBehind group
  return .conditional group

/-- Reads what follows an opening parenthesis that stands at `start`. `first` holds before the
first item of the pattern. -/
def groupStart (start : Nat) (first : Bool) : PatternRead GroupStart := do
  if !(← accept '?') then return .capture none
  let step ← advance
  match step with
  | [] => fail .unexpectedEnd
  | ['P'] => namedGroupStart
  | [':'] => return .plain {} {}
  | ['#'] =>
    commentEnd start ((← get).rest.length + 1)
    return .nothing
  | ['='] => return .look false false
  | ['!'] => return .look false true
  | ['<'] =>
    let side ← advance
    match side with
    | [] => fail .unexpectedEnd
    | ['='] => return .look true false
    | ['!'] => return .look true true
    | _ => fail (.unknownExtension ('<' :: side)) (side.length + 2)
  | ['('] => conditionalStart
  | ['>'] => return .atomic
  | _ =>
    if isFlagLetter step || step = ['-'] then
      match ← groupFlags step with
      | some (added, removed) => return .plain added removed
      | none =>
        if first then return .nothing
        else throw (.malformed .lateGlobalFlags (some start))
    else fail (.unknownExtension step) (step.length + 1)

def closeParenthesis (start : Nat) : PatternRead Unit := do
  if !(← accept ')') then throw (.malformed .unterminatedGroup (some start))

/-- In a verbose pattern blanks and comments are passed over. -/
def skipComment : Nat → PatternRead Unit
  | 0 => return
  | fuel + 1 => do
    let step ← advance
    if step = [] || step = ['\n'] then return else skipComment fuel

def isVerboseBlank (step : Text) : Bool :=
  match step with
  | [c] => c.toNat == 32 || (9 ≤ c.toNat && c.toNat ≤ 13)
  | _ => false

/-- Items that all alternatives begin with are read once, before them. -/
def commonStart : Nat → List (List PatternItem) → List PatternItem × List (List PatternItem)
  | 0, alternatives => ([], alternatives)
  | fuel + 1, alternatives =>
    match alternatives with
    | (item :: _) :: _ =>
      let shared := alternatives.all fun a => match a with
        | other :: _ => item.sameStep other
        | [] => false
      if shared then
        let (start, rest) := commonStart fuel (alternatives.map List.tail)
        (item :: start, rest)
      else ([], alternatives)
    | _ => ([], alternatives)

/-- Alternatives that are one character each make a set. -/
def setOfAlternatives? (alternatives : List (List PatternItem)) : Option (List SetMember) :=
  (alternatives.mapM fun (a : List PatternItem) => match a with
    | [item] => item.members?
    | _ => none).map List.flatten

def joinAlternatives (alternatives : List (List PatternItem)) : List PatternItem :=
  match alternatives with
  | [only] => only
  | _ =>
    let (start, rest) := commonStart (alternatives.flatten.length + 1) alternatives
    match setOfAlternatives? rest with
    | some members => start ++ [.set false members.eraseDups]
    | none => start ++ [.branch rest]

/-- Groups that neither capture nor change an option are their bodies. -/
def unwrapPlain (items : List PatternItem) : List PatternItem :=
  items.flatMap fun item => (item.plainGroup?).getD [item]

mutual

/-- Alternatives up to the end or a closing parenthesis. `depth` counts the enclosing groups. -/
def alternatives : Nat → Bool → Nat → List (List PatternItem) → PatternRead (List PatternItem)
  | 0, _, _, _ => fail .unexpectedEnd
  | fuel + 1, verbose, depth, done => do
    let items ← sequence fuel verbose depth (depth == 0 && done.isEmpty) []
    let done := done ++ [unwrapPlain items]
    if ← accept '|' then
      let outer ← get
      alternatives fuel (if depth == 0 then outer.flags.verbose else verbose) depth done
    else return joinAlternatives done

/-- One alternative, as the items read so far and those still to come. -/
def sequence : Nat → Bool → Nat → Bool → List PatternItem → PatternRead (List PatternItem)
  | 0, _, _, _, _ => fail .unexpectedEnd
  | fuel + 1, verbose, depth, first, items => do
    let step ← peek
    if step = [] || step = ['|'] || step = [')'] then return items
    let start := (← get).position
    let _ ← advance
    if verbose && isVerboseBlank step then sequence fuel verbose depth first items
    else if verbose && step = ['#'] then
      skipComment ((← get).rest.length + 1)
      sequence fuel verbose depth first items
    else
      let also (item : PatternItem) := sequence fuel verbose depth first (items ++ [item])
      let again (least : Nat) (most : Option Nat) := do
        sequence fuel verbose depth first (← repeatLast start least most items)
      match step with
      | '\\' :: c :: _ => also (← itemEscape c)
      | ['['] => also (← bracketed)
      | ['?'] => again 0 (some 1)
      | ['*'] => again 0 none
      | ['+'] => again 1 none
      | ['\x7b'] =>
        match ← braceBounds with
        | none => also (.literal '\x7b'.toNat)
        | some (least, most) => again least most
      | ['.'] => also .any
      | ['^'] => also (.anchor .lineStart)
      | ['$'] => also (.anchor .lineEnd)
      | ['('] =>
        match ← groupStart start (first && items.isEmpty) with
        | .nothing =>
          let outer ← get
          sequence fuel (verbose || (depth == 0 && outer.flags.verbose)) depth first items
        | .item item => also item
        | .capture name =>
          let group ← openGroup name
          enterGroup depth
          let body ← alternatives fuel verbose (depth + 1) []
          closeParenthesis start
          closeGroup group body
          also (.group (some group) {} {} body)
        | .plain added removed =>
          let inner := (verbose || added.verbose) && !removed.verbose
          enterGroup depth
          let body ← alternatives fuel inner (depth + 1) []
          closeParenthesis start
          also (.group none added removed body)
        | .atomic =>
          enterGroup depth
          let body ← alternatives fuel verbose (depth + 1) []
          closeParenthesis start
          also (.atomic body)
        | .look behind negated =>
          let outer := (← get).lookBehindGroups
          if behind && outer.isNone then
            modify fun r => { r with lookBehindGroups := some r.widths.length }
          enterGroup depth
          let body ← alternatives fuel verbose (depth + 1) []
          if behind then modify fun r => { r with lookBehindGroups := outer }
          closeParenthesis start
          also (.look behind negated body)
        | .conditional group =>
          enterGroup depth
          let yes ← sequence fuel verbose (depth + 1) false []
          let no ←
            if ← accept '|' then do
              let no ← sequence fuel verbose (depth + 1) false []
              if (← peek) = ['|'] then fail .tooManyBranches
              pure no
            else pure []
          closeParenthesis start
          also (.conditional group (unwrapPlain yes) (unwrapPlain no))
      | c :: _ => also (.literal c.toNat)
      | [] => return items

end

end SitePreview.PatternRead
