import SitePreview.Text.Latin
import SitePreview.Text.Utf8

namespace SitePreview

structure Response where
  status : Nat
  mediaType : Text
  body : Bytes
  deriving DecidableEq, Repr

namespace Response

def plainText : Text := "text/plain; charset=utf-8".toList

def ofText (status : Nat) (body : Text) : Response := ⟨status, plainText, Utf8.encode body⟩

def badRequest : Response := ofText 400 "400 Bad Request".toList

def forbidden : Response := ofText 403 "403 Forbidden".toList

def notFound : Response := ofText 404 "404 Not Found".toList

def indexNotFound : Response := ofText 404 "404 Not Found (Directory index not found)".toList

def serverError : Response := ofText 500 "500 Internal Server Error".toList

def phrase (status : Nat) : Text :=
  match status with
  | 200 => "OK".toList
  | 400 => "Bad Request".toList
  | 403 => "Forbidden".toList
  | 404 => "Not Found".toList
  | _ => "Internal Server Error".toList

def lineEnd : Text := ['\r', '\n']

def headText (r : Response) : Text :=
  "HTTP/1.1 ".toList ++ Text.ofNat r.status ++ ' ' :: phrase r.status ++ lineEnd ++
    "Content-Type: ".toList ++ r.mediaType ++ lineEnd ++
    "Content-Length: ".toList ++ Text.ofNat r.body.length ++ lineEnd ++
    "Connection: close".toList ++ lineEnd ++ lineEnd

def render (r : Response) (headOnly : Bool) : Bytes :=
  Latin.encode r.headText ++ if headOnly then [] else r.body

end Response

end SitePreview
