import SitePreview.Text.Basic

namespace SitePreview.Utf16

def units? (bigEndian : Bool) : Bytes → Option (List Nat)
  | [] => some []
  | [_] => none
  | a :: b :: rest =>
    let unit := if bigEndian then 256 * a.toNat + b.toNat else a.toNat + 256 * b.toNat
    (units? bigEndian rest).map (unit :: ·)

def isHighHalf (n : Nat) : Bool := 0xd800 ≤ n && n ≤ 0xdbff

def isLowHalf (n : Nat) : Bool := 0xdc00 ≤ n && n ≤ 0xdfff

/-- Joins the two halves of a code point above U+FFFF; a half alone is refused. -/
def joinHalves? : List Nat → Option (List Nat)
  | [] => some []
  | [u] => if isHighHalf u || isLowHalf u then none else some [u]
  | u :: v :: rest =>
    if isHighHalf u then
      if isLowHalf v then
        (joinHalves? rest).map ((0x10000 + 1024 * (u - 0xd800) + (v - 0xdc00)) :: ·)
      else none
    else if isLowHalf u then none
    else (joinHalves? (v :: rest)).map (u :: ·)

def decode? (bs : Bytes) : Option Text :=
  let (bigEndian, body) := match bs with
    | 0xff :: 0xfe :: rest => (false, rest)
    | 0xfe :: 0xff :: rest => (true, rest)
    | _ => (false, bs)
  ((units? bigEndian body).bind joinHalves?).map fun codes => codes.map Char.ofNat

end SitePreview.Utf16
