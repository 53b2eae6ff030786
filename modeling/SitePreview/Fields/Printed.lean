import SitePreview.Fields.Value

namespace SitePreview.Value

def escapeChar (c : Char) : Text :=
  if c = '"' then ['\\', '"']
  else if c = '\\' then ['\\', '\\']
  else if c = '\n' then ['\\', 'n']
  else if c = '\r' then ['\\', 'r']
  else if c = '\t' then ['\\', 't']
  else if c = '\x08' then ['\\', 'b']
  else if c = '\x0c' then ['\\', 'f']
  else if c.toNat < 0x20 then '\\' :: 'u' :: Text.hex 4 c.toNat
  else [c]

def quoted (s : Text) : Text := '"' :: (s.flatMap escapeChar ++ ['"'])

/-- A number with so many digits behind the point. -/
def printedNumber (mantissa : Int) (places : Nat) : Text :=
  let sign := if mantissa < 0 then ['-'] else []
  let digits := Text.ofNat mantissa.natAbs
  let padded := List.replicate (places + 1 - digits.length) '0' ++ digits
  let whole := padded.length - places
  if places = 0 then sign ++ digits
  else sign ++ padded.take whole ++ '.' :: padded.drop whole

def margin (depth : Nat) : Text := List.replicate (2 * depth) ' '

/-- Items on lines of their own between two marks. -/
def enclosed (opening closing : Char) (depth : Nat) (items : List Text) : Text :=
  if items = [] then [opening, closing]
  else
    let lines := items.map (margin (depth + 1) ++ ·)
    opening :: '\n' :: ([',', '\n'].intercalate lines ++ '\n' :: margin depth ++ [closing])

mutual

def printed (depth : Nat) : Value → Text
  | null => "null".toList
  | bool b => (if b then "true" else "false").toList
  | number mantissa places => printedNumber mantissa places
  | text s => quoted s
  | list items => enclosed '[' ']' depth (printedItems (depth + 1) items)
  | record fields => enclosed '{' '}' depth (printedFields (depth + 1) fields)

def printedItems (depth : Nat) : List Value → List Text
  | [] => []
  | v :: vs => printed depth v :: printedItems depth vs

def printedFields (depth : Nat) : List (Text × Value) → List Text
  | [] => []
  | (name, v) :: rest =>
    (quoted name ++ ':' :: ' ' :: printed depth v) :: printedFields depth rest

end

end SitePreview.Value
