import SitePreview.Conf.Token

namespace SitePreview

inductive ScanMode where
  | bare
  | quoted (quote : Char)
  | escaped (quote : Char)
  | comment
  deriving DecidableEq, Repr

/-- The tokens and the characters of the open word are held newest first. -/
structure Scanner where
  done : List Token := []
  letters : Text := []
  quoted : Bool := false
  mode : ScanMode := .bare
  deriving DecidableEq, Repr

namespace Scanner

def isQuote (c : Char) : Bool := c == '\'' || c == '"'

/-- Ends the open word. A word without characters leaves no token. -/
def flush (s : Scanner) : Scanner :=
  match s.letters with
  | [] => { s with quoted := false }
  | cs =>
    let value := cs.reverse
    { s with
      done := (if s.quoted then .string value else .word value) :: s.done
      letters := []
      quoted := false }

def push (s : Scanner) (c : Char) : Scanner := { s with letters := c :: s.letters }

def feedBare (s : Scanner) (c : Char) : Scanner :=
  if isQuote c then { s with mode := .quoted c, quoted := true }
  else if c = '#' then { s.flush with mode := .comment }
  else if isBlank c then s.flush
  else match Token.mark? c with
    | some mark => let s := s.flush; { s with done := mark :: s.done }
    | none => s.push c

def feed (s : Scanner) (c : Char) : Scanner :=
  match s.mode with
  | .bare => s.feedBare c
  | .quoted quote =>
    if c = quote then { s with mode := .bare }
    else if c = '\\' then { s with mode := .escaped quote }
    else s.push c
  | .escaped quote => { s.push c with mode := .quoted quote }
  | .comment => if c = '\n' then { s with mode := .bare } else s

/-- At the end an open word counts as it stands, and a last backslash for itself. -/
def finish (s : Scanner) : List Token :=
  match s.mode with
  | .escaped _ => (s.push '\\').flush.done.reverse
  | _ => s.flush.done.reverse

def feedAll (s : Scanner) (text : Text) : Scanner := text.foldl feed s

theorem feedAll_append (s : Scanner) (a b : Text) :
    s.feedAll (a ++ b) = (s.feedAll a).feedAll b := List.foldl_append

end Scanner

def tokenize (text : Text) : List Token := (Scanner.feedAll {} text).finish

end SitePreview
