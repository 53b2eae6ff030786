import SitePreview.CommandLine.Argument
import SitePreview.Text.WrittenNumber

namespace SitePreview

inductive CommandRequest where
  | help
  | version
  | run (options : RunOptions)
  deriving DecidableEq, Repr

namespace RunOptions

def assign (o : CommandOption) (value : Text) (r : RunOptions) : Except UsageError RunOptions :=
  match o with
  | .config => .ok { r with config := value }
  | .baseDir => .ok { r with baseDir := value }
  | .workspace => .ok { r with workspace := some value }
  | .host => .ok { r with host := value }
  | .port =>
    match writtenNumber? value with
    | some n => .ok { r with port := n }
    | none => .error (.notNumber o value)
  | .logDir => .ok { r with logDir := value }
  | .logLevel => .ok { r with logLevel := value }
  | _ => .error (.needlessValue o value)

end RunOptions

namespace CommandRequest

/-- What is needless behind the short form of the help: a dash or a value, but no letter. -/
def needlessLetters? : Text → Option Text
  | '-' :: rest => some ('-' :: rest)
  | 'h' :: '=' :: value => some value
  | 'h' :: rest => needlessLetters? rest
  | _ => none

/-- Reads arguments from left to right, with the words so far that no option takes. -/
def ofArguments (r : RunOptions) (words : List Text) :
    List Argument → Except UsageError CommandRequest
  | [] => if words = [] then .ok (.run r) else .error (.unrecognized words)
  | .plain word :: rest => ofArguments r (words ++ [word]) rest
  | .unknown word :: rest => ofArguments r (words ++ [word]) rest
  | .separator :: rest => ofArguments r (words ++ [['-', '-']]) rest
  | .letters behind :: _ =>
    match needlessLetters? behind with
    | some value => .error (.needlessValue .help value)
    | none => .ok .help
  | .option o (some value) :: rest =>
    match r.assign o value with
    | .ok r => ofArguments r words rest
    | .error e => .error e
  | .option .help none :: _ => .ok .help
  | .option .version none :: _ => .ok .version
  | .option .printConfig none :: rest => ofArguments { r with printConfig := true } words rest
  | .option o none :: .plain value :: rest =>
    match r.assign o value with
    | .ok r => ofArguments r words rest
    | .error e => .error e
  | .option o none :: _ => .error (.missingValue o)

def ofWords (words : List Text) : Except UsageError CommandRequest := do
  ofArguments {} [] (← Argument.ofWords words)

end CommandRequest

end SitePreview
