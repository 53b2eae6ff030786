import SitePreview.Text.Blank

namespace SitePreview

inductive Token where
  | word (value : Text)
  | string (value : Text)
  | lbrace
  | rbrace
  | semicolon
  deriving DecidableEq, Repr

namespace Token

def mark? : Char → Option Token
  | '{' => some lbrace
  | '}' => some rbrace
  | ';' => some semicolon
  | _ => none

def value : Token → Text
  | word v => v
  | string v => v
  | lbrace => ['{']
  | rbrace => ['}']
  | semicolon => [';']

/-- The value of a word or string, which is a part of a directive. -/
def part? : Token → Option Text
  | word v => some v
  | string v => some v
  | _ => none

def isMark (t : Token) : Bool := t.part?.isNone

section Marks

variable {c : Char} {t : Token}

theorem value_of_mark? (h : mark? c = some t) : t.value = [c] := by
  unfold mark? at h
  split at h <;> cases h <;> rfl

theorem isMark_of_mark? (h : mark? c = some t) : t.isMark = true := by
  unfold mark? at h
  split at h <;> cases h <;> rfl

theorem mark?_eq_none_iff : mark? c = none ↔ c ∉ ['{', '}', ';'] := by
  unfold mark?
  split <;> simp_all

end Marks

end Token

end SitePreview
