import SitePreview.Platform

namespace SitePreview

namespace Encoding

def utf8Confidence (wide : Nat) : Rat :=
  if wide < 6 then 1 - 99 / 100 * (1 / 2) ^ wide else 99 / 100

def singleConfidence : Rat := 73 / 100

def singleName (bs : Bytes) : Text :=
  if bs.any Windows.isOwn then "Windows-1252".toList else "ISO-8859-1".toList

def wideCount (s : Text) : Nat := s.countP fun c => 128 ≤ c.toNat

/-- A detector that weighs UTF-8 against one octet per character. -/
def surmise (bs : Bytes) : Detection :=
  let single : Detection := { encoding := some (singleName bs), confidence := singleConfidence }
  match Utf8.decode? bs with
  | none => single
  | some [] => {}
  | some s =>
    let wide := wideCount s
    if wide = 0 then { encoding := some "ascii".toList, confidence := 1 }
    else if utf8Confidence wide < singleConfidence then single
    else { encoding := some "utf-8".toList, confidence := utf8Confidence wide }

end Encoding

/-- A platform for a program that is given no other. It reads the codes held here and names no characters. -/
def Platform.plain : Platform where
  detect := Encoding.surmise
  readCode := Codec.readNamed
  blockRoom := 980
  patterns := { named? := fun _ => none, groupRoom := 480 }

end SitePreview
