import SitePreview.Text.Basic

namespace SitePreview.HostAddress

/-- A number up to 255 without a leading zero. -/
def isDecimalOctet (s : Text) : Bool :=
  s ≠ [] && s.all Text.isDigit && s.length ≤ 3 && (s == ['0'] || s.head? != some '0') &&
    Text.digitsValue s ≤ 255

def isVersion4 (s : Text) : Bool :=
  let octets := partsAt '.' s
  octets.length == 4 && octets.all isDecimalOctet

def isGroup (s : Text) : Bool :=
  s ≠ [] && s.length ≤ 4 && s.all fun c => (Text.hexValue? c).isSome

def groupCount : Nat := 8

/-- A part that may be left empty because the gap reaches it. -/
def besideGap (parts : List Text) : List Text := if parts = [[]] then [] else parts

/-- Groups between colons: eight of them, or fewer with one gap. -/
def areGroups (parts : List Text) : Bool :=
  let inner := parts.tail.dropLast
  match inner.count [] with
  | 0 => parts.length == groupCount && parts.all isGroup
  | 1 =>
    let gap := inner.findIdx (· == []) + 1
    let groups := besideGap (parts.take gap) ++ besideGap (parts.drop (gap + 1))
    groups.length < groupCount && groups.all isGroup
  | _ => false

/-- The last part may be written as four decimal octets, which stand for two groups. -/
def spreadLast (parts : List Text) : Option (List Text) :=
  match parts.getLast? with
  | none => some parts
  | some last =>
    if !last.contains '.' then some parts
    else if isVersion4 last then some (parts.dropLast ++ [['0'], ['0']])
    else none

/-- A zone may follow a percent sign. -/
def withoutZone (s : Text) : Option Text :=
  let (address, zone) := cutAt '%' s
  if !s.contains '%' then some s
  else if zone = [] || zone.contains '%' then none
  else some address

def isVersion6 (s : Text) : Bool :=
  !s.contains '/' &&
    match withoutZone s with
    | none => false
    | some address =>
      let parts := partsAt ':' address
      3 ≤ parts.length && (spreadLast parts).any areGroups

/-- The form kept for later versions: a version in hexadecimal digits, a dot, and an address. -/
def isFuture (s : Text) : Bool :=
  match s with
  | 'v' :: rest =>
    let isHex := fun c => (Text.hexValue? c).isSome
    rest.takeWhile isHex ≠ [] &&
      match rest.dropWhile isHex with
      | '.' :: c :: cs => !(c :: cs).contains '\n'
      | _ => false
  | _ => false

end SitePreview.HostAddress
