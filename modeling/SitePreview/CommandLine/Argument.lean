import SitePreview.CommandLine.Options
import SitePreview.Text.Letter
import SitePreview.Text.Quoted

namespace SitePreview

inductive Argument where
  | plain (word : Text)
  | separator
  | option (o : CommandOption) (attached : Option Text)
  /-- Letters behind the short form of the help. -/
  | letters (behind : Text)
  | unknown (word : Text)
  deriving DecidableEq, Repr

inductive UsageError where
  | ambiguous (argument : Text) (candidates : List Text)
  | missingValue (o : CommandOption)
  | notNumber (o : CommandOption) (value : Text)
  | needlessValue (o : CommandOption) (value : Text)
  | unrecognized (words : List Text)
  deriving DecidableEq, Repr

namespace UsageError

def aboutOption (o : CommandOption) (what : Text) : Text :=
  "argument ".toList ++ o.title ++ ": ".toList ++ what

def message : UsageError → Text
  | ambiguous argument candidates =>
    "ambiguous option: ".toList ++ argument ++ " could match ".toList ++
      [',', ' '].intercalate candidates
  | missingValue o => aboutOption o "expected one argument".toList
  | notNumber o value => aboutOption o ("invalid int value: ".toList ++ Quoted.text value)
  | needlessValue o value =>
    aboutOption o ("ignored explicit argument ".toList ++ Quoted.text value)
  | unrecognized words => "unrecognized arguments: ".toList ++ [' '].intercalate words

end UsageError

namespace Argument

/-- A word up to its first equals sign, and what follows the sign. -/
def cutAtEquals (word : Text) : Text × Option Text :=
  let (name, value) := cutAt '=' word
  (name, if word.contains '=' then some value else none)

def beginningWith (name : Text) : List (Text × CommandOption) :=
  CommandOption.table.filter fun entry => name.isPrefixOf entry.1

def isDecimal (c : Char) : Bool := (decimalValue? c.toNat).isSome

/-- Whether a word is a minus sign and a number, whole or with a point; a line feed may end it. -/
def isNegativeNumber (word : Text) : Bool :=
  match word with
  | '-' :: rest =>
    let body := if rest.getLast? = some '\n' then rest.dropLast else rest
    let (whole, places) := cutAt '.' body
    if body.contains '.' then !places.isEmpty && whole.all isDecimal && places.all isDecimal
    else !body.isEmpty && body.all isDecimal
  | _ => false

/-- A word with a dash that no option begins like. -/
def unmatched (word : Text) : Argument :=
  if isNegativeNumber word || word.contains ' ' then .plain word else .unknown word

def abbreviated (word : Text) : Except UsageError Argument :=
  let (name, value) := cutAtEquals word
  match beginningWith name with
  | [] => .ok (unmatched word)
  | [(_, o)] => .ok (.option o value)
  | several => .error (.ambiguous word (several.map Prod.fst))

/-- Reads a word that is not two dashes alone. -/
def ofWord (word : Text) : Except UsageError Argument :=
  if word.head? ≠ some '-' then .ok (.plain word)
  else match CommandOption.table.lookup word with
    | some o => .ok (.option o none)
    | none =>
      if word = ['-'] then .ok (.plain word)
      else
        let (name, value) := cutAtEquals word
        match value, CommandOption.table.lookup name with
        | some v, some o => .ok (.option o (some v))
        | _, _ =>
          match word with
          | '-' :: '-' :: _ => abbreviated word
          | '-' :: 'h' :: behind => .ok (.letters behind)
          | _ => .ok (unmatched word)

def ofWords : List Text → Except UsageError (List Argument)
  | [] => .ok []
  | word :: rest =>
    if word = ['-', '-'] then .ok (.separator :: rest.map .plain)
    else do
      let first ← ofWord word
      let others ← ofWords rest
      return first :: others

end Argument

end SitePreview
