import SitePreview.Text.Utf8

namespace SitePreview.Percent

def isAscii (c : Char) : Bool := c.toNat < 128

def octets : Text → Bytes
  | [] => []
  | '%' :: a :: b :: rest =>
    match Text.hexValue? a, Text.hexValue? b with
    | some x, some y => UInt8.ofNat (16 * x + y) :: octets rest
    | _, _ => UInt8.ofNat 37 :: octets (a :: b :: rest)
  | c :: rest => UInt8.ofNat c.toNat :: octets rest

/-- Replaces each escape once. -/
def decode : Text → Text
  | [] => []
  | c :: cs =>
    if isAscii c then
      Utf8.decodeLossy (octets (c :: cs.takeWhile isAscii)) ++ decode (cs.dropWhile isAscii)
    else c :: decode cs
termination_by s => s.length
decreasing_by
  · have := (List.dropWhile_sublist (p := isAscii) (l := cs)).length_le
    simp only [List.length_cons]; omega
  · simp

/-- Decodes until nothing changes, at most `rounds` times. -/
def decodeRounds : Nat → Text → Text
  | 0, s => s
  | rounds + 1, s => if decode s = s then s else decodeRounds rounds (decode s)

end SitePreview.Percent
