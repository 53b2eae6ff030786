import SitePreview.Files.Path
import SitePreview.Text.Case

namespace SitePreview

def mediaTypes : List (Text × Text) := [
  (".html".toList, "text/html".toList),
  (".htm".toList, "text/html".toList),
  (".js".toList, "application/javascript".toList),
  (".css".toList, "text/css".toList),
  (".json".toList, "application/json".toList),
  (".png".toList, "image/png".toList),
  (".jpg".toList, "image/jpeg".toList),
  (".jpeg".toList, "image/jpeg".toList),
  (".gif".toList, "image/gif".toList),
  (".svg".toList, "image/svg+xml".toList),
  (".ico".toList, "image/x-icon".toList),
  (".txt".toList, "text/plain".toList),
  (".xml".toList, "application/xml".toList),
  (".pdf".toList, "application/pdf".toList)]

def defaultMediaType : Text := "application/octet-stream".toList

def mediaTypeOf (path : Text) : Text :=
  (mediaTypes.lookup (Path.extension path).lower).getD defaultMediaType

end SitePreview
