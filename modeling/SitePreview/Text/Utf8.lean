import SitePreview.Text.Basic

namespace SitePreview.Utf8

def encodeCode (n : Nat) : List Nat :=
  if n < 0x80 then [n]
  else if n < 0x800 then [0xc0 + n / 64, 0x80 + n % 64]
  else if n < 0x10000 then [0xe0 + n / 4096, 0x80 + n / 64 % 64, 0x80 + n % 64]
  else [0xf0 + n / 262144, 0x80 + n / 4096 % 64, 0x80 + n / 64 % 64, 0x80 + n % 64]

def encodeChar (c : Char) : Bytes := (encodeCode c.toNat).map UInt8.ofNat

def encode (s : Text) : Bytes := s.flatMap encodeChar

/-- What octets begin with: a character, or so many octets of a broken one. -/
inductive Front where
  | char (code size : Nat)
  | broken (size : Nat)
  deriving DecidableEq, Repr

def Front.size : Front → Nat
  | .char _ n => n
  | .broken n => n

/-- How many octets follow a lead octet, and the bounds of the first of them. -/
def follow (lead : Nat) : Option (Nat × Nat × Nat) :=
  if 0xc2 ≤ lead ∧ lead ≤ 0xdf then some (1, 0x80, 0xbf)
  else if lead = 0xe0 then some (2, 0xa0, 0xbf)
  else if lead = 0xed then some (2, 0x80, 0x9f)
  else if 0xe1 ≤ lead ∧ lead ≤ 0xef then some (2, 0x80, 0xbf)
  else if lead = 0xf0 then some (3, 0x90, 0xbf)
  else if 0xf1 ≤ lead ∧ lead ≤ 0xf3 then some (3, 0x80, 0xbf)
  else if lead = 0xf4 then some (3, 0x80, 0x8f)
  else none

def isContinuation (n : Nat) : Bool := 0x80 ≤ n && n ≤ 0xbf

/-- Reads `more` continuation octets onto a code of which `size` octets are read. -/
def continueFront : Nat → Nat → Nat → List Nat → Front
  | 0, code, size, _ => .char code size
  | _ + 1, _, size, [] => .broken size
  | more + 1, code, size, b :: rest =>
    if isContinuation b then continueFront more (64 * code + (b - 0x80)) (size + 1) rest
    else .broken size

def front (lead : Nat) (rest : List Nat) : Front :=
  if lead < 0x80 then .char lead 1
  else match follow lead with
    | none => .broken 1
    | some (more, low, high) =>
      match rest with
      | [] => .broken 1
      | b :: rest =>
        if low ≤ b ∧ b ≤ high then
          let leadBits :=
            if more = 1 then lead - 0xc0 else if more = 2 then lead - 0xe0 else lead - 0xf0
          continueFront (more - 1) (64 * leadBits + (b - 0x80)) 2 rest
        else .broken 1

def decodeCodes? : List Nat → Option (List Nat)
  | [] => some []
  | b :: rest =>
    match front b rest with
    | .char code size => (decodeCodes? (rest.drop (size - 1))).map (code :: ·)
    | .broken _ => none
termination_by bs => bs.length
decreasing_by simp only [List.length_drop, List.length_cons]; omega

def lossyCodes : List Nat → List Nat
  | [] => []
  | b :: rest =>
    match front b rest with
    | .char code size => code :: lossyCodes (rest.drop (size - 1))
    | .broken size => 0xfffd :: lossyCodes (rest.drop (size - 1))
termination_by bs => bs.length
decreasing_by all_goals simp only [List.length_drop, List.length_cons]; omega

def decode? (bs : Bytes) : Option Text :=
  (decodeCodes? (bs.map UInt8.toNat)).map fun codes => codes.map Char.ofNat

/-- The text that the octets write, with U+FFFD for each broken part. -/
def decodeLossy (bs : Bytes) : Text :=
  (lossyCodes (bs.map UInt8.toNat)).map Char.ofNat

end SitePreview.Utf8
