import SitePreview.Text.Basic
import SitePreview.Text.CaseTable
import SitePreview.Text.Letter
import SitePreview.Text.UpperTable

namespace SitePreview

/-- The code point that the rows make of `n`; `n` itself where no row holds it. -/
def imageBy (rows : List (Nat × Nat × Nat × Nat)) (n : Nat) : Nat :=
  match rows.find? fun (first, last, step, _) =>
      first ≤ n && n ≤ last && (n - first) % step == 0 with
  | some (first, _, _, image) => image + (n - first)
  | none => n

def lowerCode (n : Nat) : Nat :=
  if n < 128 then if isAsciiUpper n then n + 32 else n else imageBy lowerRows n

def upperCode (n : Nat) : Nat :=
  if n < 128 then if isAsciiLower n then n - 32 else n else imageBy upperRows n

def hasCase (n : Nat) : Bool := lowerCode n != n || upperCode n != n

/-- The code points whose lower-case form is `n`. -/
def withLowerForm (n : Nat) : List Nat :=
  let moved := lowerRows.map fun (first, _, _, image) => n + first - image
  (n :: moved).eraseDups.filter fun m => lowerCode m == n

def asciiLowerCode (n : Nat) : Nat := if isAsciiUpper n then n + 32 else n

def isCaseSkipped (n : Nat) : Bool := inRanges caseSkippedRanges n

def isCasedNeighbour (n : Nat) : Bool := inRanges casedRanges n

/-- Whether the nearest character that a sigma does not look past has case. -/
def meetsCase (cs : Text) : Bool :=
  match cs.dropWhile fun c => isCaseSkipped c.toNat with
  | [] => false
  | c :: _ => isCasedNeighbour c.toNat

/-- The lower-case form of one character that is no capital sigma. -/
def Text.lowerChar (c : Char) : Text :=
  if c = '\u0130' then ['i', '\u0307'] else [Char.ofNat (lowerCode c.toNat)]

def Text.lowerAfter : Text → Text → Text
  | _, [] => []
  | before, c :: cs =>
    let form :=
      if c = '\u03a3' then
        if meetsCase before && !meetsCase cs then ['\u03c2'] else ['\u03c3']
      else lowerChar c
    form ++ lowerAfter (c :: before) cs

def Text.lower (s : Text) : Text := Text.lowerAfter [] s

def Text.upperChar (c : Char) : Text :=
  match upperForms.lookup c.toNat with
  | some form => form.map Char.ofNat
  | none => [Char.ofNat (upperCode c.toNat)]

def Text.upper (s : Text) : Text := s.flatMap upperChar

end SitePreview
