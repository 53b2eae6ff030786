import SitePreview.Text.Blank
import SitePreview.Text.Letter

namespace SitePreview

/-- How many digits a written number may have. -/
def digitLimit : Nat := 4300

def writtenSign (s : Text) : Bool × Text :=
  match s with
  | '-' :: digits => (true, digits)
  | '+' :: digits => (false, digits)
  | digits => (false, digits)

def writtenDigits? (s : Text) : Option (List Nat) :=
  let parts := partsAt '_' s
  if parts.any List.isEmpty then none
  else parts.flatten.mapM fun c => decimalValue? c.toNat

def writtenNumber? (s : Text) : Option Int :=
  let (negative, digits) := writtenSign s.trim
  match writtenDigits? digits with
  | none => none
  | some values =>
    if values.length > digitLimit then none
    else
      let n : Nat := values.foldl (fun n v => 10 * n + v) 0
      some (if negative then -(n : Int) else (n : Int))

end SitePreview
