import SitePreview.CommandLine.Argument

namespace SitePreview.Usage

def programName : Text := "nginx-preview".toList

def programVersion : Text := "v1.0".toList

def purpose : Text :=
  "Serve a workspace locally using the routing rules of its nginx.conf".toList

def lineWidth : Nat := 78

def withValue (o : CommandOption) (spelling : Text) : Text :=
  match o.valueName with
  | some name => spelling ++ ' ' :: name
  | none => spelling

def bracketed (o : CommandOption) : Text :=
  '[' :: withValue o (o.spellings.head?.getD []) ++ [']']

/-- Fills lines with parts, a space between two of them, up to a width. -/
def fill (width : Nat) : Text → List Text → List Text
  | line, [] => [line]
  | line, part :: parts =>
    if line = [] then fill width part parts
    else if line.length + 1 + part.length ≤ width then fill width (line ++ ' ' :: part) parts
    else line :: fill width part parts

def opening : Text := "usage: ".toList ++ programName ++ [' ']

def synopsis : Text :=
  let indent := List.replicate opening.length ' '
  let lines := fill (lineWidth - opening.length) [] (CommandOption.all.map bracketed)
  opening ++ ('\n' :: indent).intercalate lines ++ ['\n']

def descriptionColumn : Nat := 24

/-- An option with its description, which begins on a line of its own where the option is long. -/
def entry (o : CommandOption) : Text :=
  let head := ' ' :: ' ' :: [',', ' '].intercalate (o.spellings.map (withValue o))
  let gap :=
    if head.length + 2 ≤ descriptionColumn then
      List.replicate (descriptionColumn - head.length) ' '
    else '\n' :: List.replicate descriptionColumn ' '
  head ++ gap ++ o.about ++ ['\n']

def help : Text :=
  synopsis ++ '\n' :: purpose ++ "\n\noptions:\n".toList ++ CommandOption.all.flatMap entry

def version : Text := programName ++ ' ' :: programVersion ++ ['\n']

def complaint (e : UsageError) : Text :=
  synopsis ++ programName ++ ": error: ".toList ++ e.message ++ ['\n']

end SitePreview.Usage
