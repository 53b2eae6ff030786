import SitePreview.Text.WrittenNumber

namespace SitePreview

def defaultPort : Nat := 80

def lastPort : Nat := 65535

/-- The digits of a port value: those after a colon up to the end, before which a line end may
stand, or the whole value if it is digits alone. -/
def portDigits? (value : Text) : Option Text :=
  let body := if value.getLast? = some '\n' then value.dropLast else value
  let digits := (body.reverse.takeWhile Text.isDigit).reverse
  if digits ≠ [] ∧ (body.reverse.dropWhile Text.isDigit).head? = some ':' then some digits
  else if value ≠ [] ∧ value.all Text.isDigit then some value
  else none

/-- A number with more digits than can be read. -/
structure DigitOverflow where
  digits : Nat
  deriving DecidableEq, Repr

def portNumber? (value : Text) : Except DigitOverflow (Option Nat) :=
  match portDigits? value with
  | none => .ok none
  | some digits =>
    if digits.length > digitLimit then .error ⟨digits.length⟩
    else .ok (some (Text.digitsValue digits))

def isUsablePort (n : Nat) : Bool := 1 ≤ n && n ≤ lastPort

def portOfListen : Option (List Text) → Except DigitOverflow Nat
  | some (value :: _) => do
    match ← portNumber? value with
    | some n => return if isUsablePort n then n else defaultPort
    | none => return defaultPort
  | _ => .ok defaultPort

/-- The value of a listen directive whose port is a number out of range. -/
def outOfRangeListen? : Option (List Text) → Option Text
  | some (value :: _) =>
    match portNumber? value with
    | .ok (some n) => if isUsablePort n then none else some value
    | _ => none
  | _ => none

end SitePreview
