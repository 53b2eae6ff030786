import SitePreview.Text.Basic
import SitePreview.Text.Letter

namespace SitePreview.Quoted

/-- Single quotes, unless the text holds one and no double quote. -/
def mark (s : Text) : Char := if s.contains '\'' && !s.contains '"' then '"' else '\''

def escapeCommon? (quote c : Char) : Option Text :=
  if c = '\\' then some ['\\', '\\']
  else if c = quote then some ['\\', quote]
  else if c = '\n' then some ['\\', 'n']
  else if c = '\r' then some ['\\', 'r']
  else if c = '\t' then some ['\\', 't']
  else none

def escapeChar (quote c : Char) : Text :=
  match escapeCommon? quote c with
  | some form => form
  | none =>
    let n := c.toNat
    if isPrintable n then [c]
    else if n < 0x100 then '\\' :: 'x' :: Text.hex 2 n
    else if n < 0x10000 then '\\' :: 'u' :: Text.hex 4 n
    else '\\' :: 'U' :: Text.hex 8 n

def text (s : Text) : Text := mark s :: (s.flatMap (escapeChar (mark s)) ++ [mark s])

def escapeOctet (quote : Char) (b : UInt8) : Text :=
  let c := Char.ofNat b.toNat
  match escapeCommon? quote c with
  | some form => form
  | none =>
    if 0x20 ≤ b.toNat ∧ b.toNat < 0x7f then [c] else '\\' :: 'x' :: Text.hex 2 b.toNat

def octets (bs : Bytes) : Text :=
  let quote := mark (bs.map fun b => Char.ofNat b.toNat)
  'b' :: quote :: (bs.flatMap (escapeOctet quote) ++ [quote])

end SitePreview.Quoted
