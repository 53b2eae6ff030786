import SitePreview.Text.Basic

namespace SitePreview.Windows

def firstOwn : Nat := 0x80

/-- What the octets from 128 on write; zero stands for nothing. -/
def ownCodes : List Nat := [
  0x20ac, 0, 0x201a, 0x0192, 0x201e, 0x2026, 0x2020, 0x2021, 0x02c6, 0x2030, 0x0160, 0x2039,
  0x0152, 0, 0x017d, 0, 0, 0x2018, 0x2019, 0x201c, 0x201d, 0x2022, 0x2013, 0x2014, 0x02dc,
  0x2122, 0x0161, 0x203a, 0x0153, 0, 0x017e, 0x0178]

def isOwn (b : UInt8) : Bool := 0x80 ≤ b.toNat && b.toNat ≤ 0x9f

def decodeOctet? (b : UInt8) : Option Char :=
  if isOwn b then
    match ownCodes[b.toNat - firstOwn]? with
    | none | some 0 => none
    | some code => some (Char.ofNat code)
  else some (Char.ofNat b.toNat)

def decode? (bs : Bytes) : Option Text := bs.mapM decodeOctet?

end SitePreview.Windows
