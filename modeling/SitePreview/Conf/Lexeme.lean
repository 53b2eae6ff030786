import Mathlib.Data.List.Chain
import SitePreview.Conf.Token

namespace SitePreview

def IsBare (c : Char) : Prop := isBlank c = false ∧ c ∉ ['\'', '"', '#', '{', '}', ';']

instance : DecidablePred IsBare := fun c =>
  inferInstanceAs (Decidable (isBlank c = false ∧ c ∉ ['\'', '"', '#', '{', '}', ';']))

/-- A character between quotes, as it is or behind a backslash. -/
inductive QuotedChar (quote : Char) where
  | plain (c : Char) (standing : c ≠ quote ∧ c ≠ '\\')
  | escaped (c : Char)

namespace QuotedChar

variable {quote : Char}

def written : QuotedChar quote → Text
  | plain c _ => [c]
  | escaped c => ['\\', c]

def char : QuotedChar quote → Char
  | plain c _ => c
  | escaped c => c

/-- The quote and the backslash need a backslash. -/
def of (quote c : Char) : QuotedChar quote :=
  if h : c ≠ quote ∧ c ≠ '\\' then plain c h else escaped c

end QuotedChar

inductive Piece where
  | bare (run : Text) (standing : ∀ c ∈ run, IsBare c)
  | quoted (quote : Char) (isQuote : quote = '\'' ∨ quote = '"') (content : List (QuotedChar quote))

namespace Piece

def written : Piece → Text
  | bare run _ => run
  | quoted quote _ content => quote :: (content.flatMap QuotedChar.written ++ [quote])

def value : Piece → Text
  | bare run _ => run
  | quoted _ _ content => content.map QuotedChar.char

def isQuoted : Piece → Bool
  | bare .. => false
  | quoted .. => true

end Piece

inductive Lexeme where
  | mark (t : Token) (isMark : t.isMark = true)
  | word (pieces : List Piece) (filled : pieces ≠ [])

namespace Lexeme

def isWord : Lexeme → Bool
  | mark .. => false
  | word .. => true

def written : Lexeme → Text
  | mark t _ => t.value
  | word pieces _ => pieces.flatMap Piece.written

/-- A word without a value leaves no token. -/
def token? : Lexeme → Option Token
  | mark t _ => some t
  | word pieces _ =>
    match pieces.flatMap Piece.value with
    | [] => none
    | value => some (if pieces.any Piece.isQuoted then .string value else .word value)

end Lexeme

/-- A blank, or a comment with the line end that closes it. -/
inductive Gap where
  | blank (c : Char) (isBlank : isBlank c = true)
  | comment (body : Text) (oneLine : '\n' ∉ body)

def Gap.written : Gap → Text
  | blank c _ => [c]
  | comment body _ => '#' :: (body ++ ['\n'])

/-- Lexemes, each with the gaps that follow it. -/
abbrev Lexemes := List (Lexeme × List Gap)

namespace Lexemes

def written (items : Lexemes) : Text :=
  items.flatMap fun item => item.1.written ++ item.2.flatMap Gap.written

def tokens (items : Lexemes) : List Token := items.filterMap fun item => item.1.token?

/-- Two words that follow one another have a gap between them. -/
def Apart (items : Lexemes) : Prop :=
  items.IsChain fun a b => a.1.isWord = true → b.1.isWord = true → a.2 ≠ []

end Lexemes

/-- A text in quotes, with a backslash before each quote of the same kind and each backslash. -/
def enquote (quote : Char) (value : Text) : Text :=
  quote :: (value.flatMap (fun c => if c = quote ∨ c = '\\' then ['\\', c] else [c]) ++ [quote])

end SitePreview
