import SitePreview.Text.Case
import SitePreview.Text.DoubleByte
import SitePreview.Text.Latin
import SitePreview.Text.Utf16
import SitePreview.Text.Utf8
import SitePreview.Text.Windows

namespace SitePreview

inductive Codec where
  | utf8
  | markedUtf8
  | doubleByte (extended : Bool)
  | latin
  | windows
  | utf16
  deriving DecidableEq, Repr

inductive CodecFault where
  | unknownName
  | badOctets
  | other (why : Text)
  deriving DecidableEq, Repr

/-- The name is unknown, or its code refuses the octets. -/
def IsUnread (outcome : Except CodecFault Text) : Prop :=
  outcome = .error .unknownName ∨ outcome = .error .badOctets

namespace Codec

def utf8Mark : Bytes := [0xef, 0xbb, 0xbf]

def hasUtf8Mark (bs : Bytes) : Bool := utf8Mark.isPrefixOf bs

/-- The few codes that a plain platform reads, under the names that they are looked for. -/
def named : List (Text × Codec) := [
  ("utf-8".toList, utf8), ("utf-8-sig".toList, markedUtf8), ("gbk".toList, doubleByte false),
  ("gb18030".toList, doubleByte true), ("iso-8859-1".toList, latin),
  ("windows-1252".toList, windows), ("utf-16".toList, utf16)]

def ofName? (name : Text) : Option Codec := named.lookup name.lower

def decode? : Codec → Bytes → Option Text
  | utf8, bs => Utf8.decode? bs
  | markedUtf8, bs => Utf8.decode? (if hasUtf8Mark bs then bs.drop utf8Mark.length else bs)
  | doubleByte extended, bs => DoubleByte.decode? extended bs
  | latin, bs => some (Latin.decode bs)
  | windows, bs => Windows.decode? bs
  | utf16, bs => Utf16.decode? bs

def read (codec : Codec) (bs : Bytes) : Except CodecFault Text :=
  match codec.decode? bs with
  | none => .error .badOctets
  | some s => .ok s

def readNamed (name : Text) (bs : Bytes) : Except CodecFault Text :=
  match ofName? name with
  | none => .error .unknownName
  | some codec => codec.read bs

theorem read_of_decode {codec : Codec} {bs : Bytes} {s : Text} (h : codec.decode? bs = some s) :
    codec.read bs = .ok s := by
  rw [read, h]

theorem readNamed_of_name {codec : Codec} {name : Text} (h : ofName? name = some codec) :
    readNamed name = codec.read := by
  funext bs
  rw [readNamed, h]

theorem isUnread_readNamed {name : Text} {bs : Bytes} {e : CodecFault} (h : readNamed name bs = .error e) :
    IsUnread (readNamed name bs) := by
  cases hname : ofName? name with
  | none => exact .inl (by rw [readNamed, hname])
  | some codec =>
    rw [readNamed_of_name hname] at h ⊢
    cases hread : codec.decode? bs with
    | none => exact .inr (by rw [read, hread])
    | some s => cases (read_of_decode hread).symm.trans h

end Codec

end SitePreview
