import SitePreview.Text.Basic

namespace SitePreview

/-- A number is a mantissa with a count of decimal places. -/
inductive Value where
  | null
  | bool (b : Bool)
  | number (mantissa : Int) (places : Nat)
  | text (s : Text)
  | list (items : List Value)
  | record (fields : List (Text × Value))
  deriving Repr, Inhabited

abbrev Record := List (Text × Value)

namespace Value

def ofOptional (s : Option Text) : Value :=
  match s with
  | some s => .text s
  | none => .null

def ofTexts (ss : List Text) : Value := .list (ss.map .text)

def isNull : Value → Bool
  | null => true
  | _ => false

/-- Whether a value counts as set: nothing, false, zero and what is empty do not. -/
def isSet : Value → Bool
  | null => false
  | bool b => b
  | number mantissa _ => mantissa != 0
  | text s => !s.isEmpty
  | list items => !items.isEmpty
  | record fields => !fields.isEmpty

end Value

end SitePreview
