import SitePreview.Log.Level

namespace SitePreview

inductive Uncaught where
  | interrupted (why : Text)
  | failed (kind why : Text)
  deriving DecidableEq, Repr

namespace Uncaught

def said : Uncaught → List Message
  | interrupted _ => []
  | failed .. => [.error "Uncaught exception occurred".toList]

def interruption : Text := "KeyboardInterrupt".toList

def note : Uncaught → Text
  | interrupted [] => interruption ++ ['\n']
  | interrupted why => interruption ++ ": ".toList ++ why ++ ['\n']
  | failed .. => []

end Uncaught

end SitePreview
