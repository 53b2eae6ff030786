import Mathlib
import SitePreview.CommandLine.Table

namespace SitePreview

namespace Value

/-- What may follow a printed value: nothing that a number could go on with. -/
def Rests (rest : Text) : Prop := ∀ c, rest.head? = some c → c.isDigit = false

section Lines

variable {α : Type} {shown : α → Text} {depth : Nat}

/-- Items can be told from others when they are printed. -/
def Apart (shown : α → Text) (items others : List α) : Prop :=
  ∀ a ∈ items, ∀ b ∈ others, ∀ rest later, Rests rest → Rests later →
    shown a ++ rest = shown b ++ later → a = b ∧ rest = later

/-- What follows an item: the others, each on a line of its own, and the end of the last line. -/
def lines (shown : α → Text) (depth : Nat) (items : List α) (rest : Text) : Text :=
  items.foldr (fun a rest => ',' :: '\n' :: (margin depth ++ shown a ++ rest)) ('\n' :: rest)

end Lines

/-- What a first character tells of a value. -/
inductive Lead where
  | null
  | bool (b : Bool)
  | number
  | text
  | list
  | record
  deriving DecidableEq

def lead : Value → Lead
  | null => .null
  | bool b => .bool b
  | number .. => .number
  | text _ => .text
  | list _ => .list
  | record _ => .record

end Value

namespace Value

end Value

namespace RuleSummary

end RuleSummary

namespace ConfigSummary

end ConfigSummary

end SitePreview
