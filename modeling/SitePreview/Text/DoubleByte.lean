import SitePreview.Text.Basic

namespace SitePreview.DoubleByte

/-- A handful of the pairs of these codes, for a plain platform. No other platform is bound to them. -/
def sharedPairs : List ((UInt8 × UInt8) × Char) := [
  ((0xef, 0xbb), '\u9518'), ((0xbf, 0x72), '\u7e2d'), ((0xc3, 0xa9), '\u8305'),
  ((0xe7, 0xbd), '\u7f03'), ((0x91, 0xe7), '\u6220'), ((0xab, 0x99), '\u73ef'),
  ((0xe4, 0xb8), '\u6d93'), ((0x96, 0x87), '\u6783'), ((0xd6, 0xd0), '\u4e2d'),
  ((0xce, 0xc4), '\u6587'), ((0xe2, 0x82), '\u9227'), ((0xf0, 0x9f), '\u9983'),
  ((0x98, 0x80), '\u69be'), ((0xc0, 0x80), '\u7eae'), ((0xbf, 0xef), '\u5321'),
  ((0xbb, 0xbf), '\u8c62')]

def extendedPairs : List ((UInt8 × UInt8) × Char) := ((0xad, 0xe6), '\ue15f') :: sharedPairs

/-- GB18030 also writes characters with four octets. -/
def decode? (extended : Bool) : Bytes → Option Text
  | [] => some []
  | b :: rest =>
    if b < 0x80 then (decode? extended rest).map (Char.ofNat b.toNat :: ·)
    else match rest with
      | 0x31 :: 0x95 :: 0x33 :: rest =>
        if extended && b == 0x84 then (decode? extended rest).map ('\ufeff' :: ·) else none
      | t :: rest =>
        match (if extended then extendedPairs else sharedPairs).lookup (b, t) with
        | some c => (decode? extended rest).map (c :: ·)
        | none => none
      | [] => none

end SitePreview.DoubleByte
