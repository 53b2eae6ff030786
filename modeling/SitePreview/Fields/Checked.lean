import SitePreview.Fields.Issue
import SitePreview.Fields.Value
import SitePreview.Text.Case
import SitePreview.Text.Blank

namespace SitePreview

inductive Checked (α : Type) where
  | valid (value : α)
  | invalid (issues : List Issue)
  deriving Repr

namespace Checked

variable {α β : Type}

def issues : Checked α → List Issue
  | valid _ => []
  | invalid is => is

def apply (f : Checked (α → β)) (x : Checked α) : Checked β :=
  match f, x with
  | valid f, valid a => valid (f a)
  | f, x => invalid (f.issues ++ x.issues)

instance : Applicative Checked where
  pure := valid
  seq f x := apply f (x ())

def fail (cause : IssueCause) : Checked α := invalid [⟨[], cause⟩]

def further (x : Checked α) (check : α → Checked β) : Checked β :=
  match x with
  | valid a => check a
  | invalid is => invalid is

/-- Says below which name the issues are. -/
def within (name : Text) : Checked α → Checked α
  | valid a => valid a
  | invalid is => invalid (is.map fun i => { i with path := name :: i.path })

end Checked

namespace Value

def asText : Value → Checked Text
  | text s => .valid s
  | _ => .fail .notText

def orNone {α : Type} (check : Value → Checked α) : Value → Checked (Option α)
  | null => .valid none
  | v => some <$> check v

def asItems {α : Type} (check : Value → Checked α) : Nat → List Value → Checked (List α)
  | _, [] => .valid []
  | i, v :: vs => List.cons <$> (check v).within (Text.ofNat i) <*> asItems check (i + 1) vs

def asListOf {α : Type} (check : Value → Checked α) : Value → Checked (List α)
  | list items => asItems check 0 items
  | _ => .fail .notList

/-- Decimal digits, with single underscores between them. -/
def digitsOf? (s : Text) : Option Nat :=
  let parts := partsAt '_' s
  if parts.any List.isEmpty || !parts.flatten.all Text.isDigit then none
  else some (Text.digitsValue parts.flatten)

/-- A whole number in a text: blanks around it, a sign, and zeros behind a point are allowed. -/
def integerOf? (s : Text) : Option Int :=
  let (negative, body) := match s.trim with
    | '-' :: rest => (true, rest)
    | '+' :: rest => (false, rest)
    | rest => (false, rest)
  let (digits, places) := cutAt '.' body
  if !places.all (· == '0') then none
  else (digitsOf? digits).map fun n => if negative then -(n : Int) else n

def asInteger : Value → Checked Int
  | bool b => .valid (if b then 1 else 0)
  | number mantissa places =>
    let scale : Int := Nat.pow 10 places
    if mantissa % scale = 0 then .valid (mantissa / scale) else .fail .fractional
  | text s =>
    match integerOf? s with
    | some n => .valid n
    | none => .fail .unreadableInteger
  | _ => .fail .notInteger

def yesWords : List Text := ["1", "on", "t", "true", "y", "yes"].map String.toList

def noWords : List Text := ["0", "off", "f", "false", "n", "no"].map String.toList

def asBoolean : Value → Checked Bool
  | bool b => .valid b
  | number mantissa places =>
    let scale : Int := Nat.pow 10 places
    if mantissa = 0 then .valid false
    else if mantissa = scale then .valid true
    else if mantissa % scale = 0 then .fail .unreadableBoolean
    else .fail .notBoolean
  | text s =>
    if yesWords.contains s.lower then .valid true
    else if noWords.contains s.lower then .valid false
    else .fail .unreadableBoolean
  | _ => .fail .notBoolean

def asOneOf {α : Type} (choices : List (Text × α)) : Value → Checked α
  | text s =>
    match choices.lookup s with
    | some a => .valid a
    | none => .fail (.notAmong (choices.map Prod.fst))
  | _ => .fail (.notAmong (choices.map Prod.fst))

def atLeast (least : Int) (n : Int) : Checked Int :=
  if n < least then .fail (.below least) else .valid n

def atMost (most : Int) (n : Int) : Checked Int :=
  if n > most then .fail (.above most) else .valid n

end Value

namespace Record

/-- The field of a name, which must be there unless it has a default. -/
def read {α : Type} (r : Record) (name : String) (fallback : Option α)
    (check : Value → Checked α) : Checked α :=
  match r.lookup name.toList, fallback with
  | some v, _ => (check v).within name.toList
  | none, some a => .valid a
  | none, none => (Checked.fail .missing).within name.toList

end Record

end SitePreview
