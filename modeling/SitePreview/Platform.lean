import SitePreview.Conf.Encoding
import SitePreview.Pattern.Reader

namespace SitePreview

/-- What the program relies on and does not bring along. -/
structure Platform where
  /-- Guesses the code of some octets. -/
  detect : Bytes → Detection
  /-- Reads octets in the code of a name. -/
  readCode : Text → Bytes → Except CodecFault Text
  /-- How many blocks of a configuration can be open at once while it is parsed. -/
  blockRoom : Nat
  patterns : PatternSupport

/-- The text of a file's octets, of which the detector is shown a sample. -/
def Platform.decode (platform : Platform) (bs : Bytes) : Except Text Text :=
  Encoding.decodeBy platform.readCode (Encoding.sampled platform.detect) bs

end SitePreview
