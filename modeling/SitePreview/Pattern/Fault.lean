import SitePreview.Text.Quoted
import SitePreview.Text.WrittenNumber

namespace SitePreview

inductive PatternReason where
  | escapeAtEnd
  | badEscape (escape : Text)
  | incompleteEscape (escape : Text)
  | octalOutOfRange (escape : Text)
  | missingBrace
  | unknownCharacterName (name : Text)
  | missingName (what : Text)
  | unterminatedName (terminator : Char)
  | openGroupReference
  | lookBehindReference
  | noSuchGroup (group : Nat)
  | unterminatedSet
  | badRange (first last : Text)
  | nothingToRepeat
  | multipleRepeat
  | leastAboveMost
  | unexpectedEnd
  | badGroupName (name : Text)
  | unknownGroup (name : Text)
  | groupRedefined (name : Text) (group earlier : Nat)
  | zeroGroup
  | unknownExtension (tail : Text)
  | unterminatedComment
  | unterminatedGroup
  | tooManyBranches
  | lateGlobalFlags
  | localeFlag
  | clashingFlags
  | unknownFlag
  | missingFlagEnd
  | missingFlag
  | missingColon
  | globalFlagOn
  | globalFlagOff
  | lettersFlagOff
  | flagOnAndOff
  | unbalanced
  | variableLookBehind
  | lookBehindTooFar
  | templateRepeat (style : Text)
  deriving DecidableEq, Repr

namespace PatternReason

def message : PatternReason → Text
  | escapeAtEnd => "bad escape (end of pattern)".toList
  | badEscape e => "bad escape ".toList ++ e
  | incompleteEscape e => "incomplete escape ".toList ++ e
  | octalOutOfRange e => "octal escape value ".toList ++ e ++ " outside of range 0-0o377".toList
  | missingBrace => "missing \x7b".toList
  | unknownCharacterName n => "undefined character name ".toList ++ Quoted.text n
  | missingName what => "missing ".toList ++ what
  | unterminatedName t => "missing ".toList ++ [t] ++ ", unterminated name".toList
  | openGroupReference => "cannot refer to an open group".toList
  | lookBehindReference =>
    "cannot refer to group defined in the same lookbehind subpattern".toList
  | noSuchGroup g => "invalid group reference ".toList ++ Text.ofNat g
  | unterminatedSet => "unterminated character set".toList
  | badRange a b => "bad character range ".toList ++ a ++ ['-'] ++ b
  | nothingToRepeat => "nothing to repeat".toList
  | multipleRepeat => "multiple repeat".toList
  | leastAboveMost => "min repeat greater than max repeat".toList
  | unexpectedEnd => "unexpected end of pattern".toList
  | badGroupName n => "bad character in group name ".toList ++ Quoted.text n
  | unknownGroup n => "unknown group name ".toList ++ Quoted.text n
  | groupRedefined n g earlier =>
    "redefinition of group name ".toList ++ Quoted.text n ++ " as group ".toList ++ Text.ofNat g ++
      "; was group ".toList ++ Text.ofNat earlier
  | zeroGroup => "bad group number".toList
  | unknownExtension tail => "unknown extension ?".toList ++ tail
  | unterminatedComment => "missing ), unterminated comment".toList
  | unterminatedGroup => "missing ), unterminated subpattern".toList
  | tooManyBranches => "conditional backref with more than two branches".toList
  | lateGlobalFlags => "global flags not at the start of the expression".toList
  | localeFlag => "bad inline flags: cannot use 'L' flag with a str pattern".toList
  | clashingFlags => "bad inline flags: flags 'a', 'u' and 'L' are incompatible".toList
  | unknownFlag => "unknown flag".toList
  | missingFlagEnd => "missing -, : or )".toList
  | missingFlag => "missing flag".toList
  | missingColon => "missing :".toList
  | globalFlagOn => "bad inline flags: cannot turn on global flag".toList
  | globalFlagOff => "bad inline flags: cannot turn off global flag".toList
  | lettersFlagOff => "bad inline flags: cannot turn off flags 'a', 'u' and 'L'".toList
  | flagOnAndOff => "bad inline flags: flag turned on and off".toList
  | unbalanced => "unbalanced parenthesis".toList
  | variableLookBehind => "look-behind requires fixed-width pattern".toList
  | lookBehindTooFar => "looks too much behind".toList
  | templateRepeat style => "internal: unsupported template operator ".toList ++ style

end PatternReason

/-- The line and the column of a position, counted from 1. -/
def lineAndColumn (text : Text) (position : Nat) : Nat × Nat :=
  let before := text.take position
  (before.count '\n' + 1, (before.reverse.takeWhile (· ≠ '\n')).length + 1)

inductive PatternFault where
  | malformed (reason : PatternReason) (position : Option Nat)
  | repetitionTooLarge
  | codeTooLarge
  | tooManyDigits (digits : Nat)
  | clashingLetters
  | tooDeep
  deriving DecidableEq, Repr

def tooManyDigitsMessage (digits : Nat) : Text :=
  "Exceeds the limit (4300 digits) for integer string conversion: value has ".toList ++
    Text.ofNat digits ++
    " digits; use sys.set_int_max_str_digits() to increase the limit".toList

/-- The message for a pattern; a position is shown with line and column if the pattern has several
lines. -/
def PatternFault.message (pattern : Text) : PatternFault → Text
  | malformed reason none => reason.message
  | malformed reason (some position) =>
    let place := " at position ".toList ++ Text.ofNat position
    let (line, column) := lineAndColumn pattern position
    reason.message ++ place ++
      if pattern.contains '\n' then
        " (line ".toList ++ Text.ofNat line ++ ", column ".toList ++ Text.ofNat column ++ [')']
      else []
  | repetitionTooLarge => "the repetition number is too large".toList
  | codeTooLarge => "the character code is too large".toList
  | tooManyDigits n => tooManyDigitsMessage n
  | clashingLetters => "ASCII and UNICODE flags are incompatible".toList
  | tooDeep => "maximum recursion depth exceeded".toList

end SitePreview
