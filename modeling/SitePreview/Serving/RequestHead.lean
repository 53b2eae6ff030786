import SitePreview.Text.Blank
import SitePreview.Text.Case
import SitePreview.Text.Latin
import SitePreview.Text.Quoted

namespace SitePreview

inductive HeadFault where
  | requestLine (octets : Bytes)
  | overlongLine (ended : Bool)
  deriving DecidableEq, Repr

def HeadFault.message : HeadFault → Text
  | requestLine octets => "Malformed request line: ".toList ++ Quoted.octets octets
  | overlongLine true =>
    "Request head line too long: Separator is found, but chunk is longer than limit".toList
  | overlongLine false =>
    "Request head line too long: Separator is not found, and chunk exceed the limit".toList

structure RequestHead where
  method : Text
  target : Text
  headers : List (Text × Text)
  deriving DecidableEq, Repr

namespace RequestHead

/-- How many octets may stand before the end of a line. -/
def defaultLineLimit : Nat := 65536

def headerLineLimit : Nat := 100

def newline : UInt8 := 10

inductive LineRead where
  | line (octets rest : Bytes)
  | overlong (ended : Bool)
  | waiting
  deriving DecidableEq, Repr

/-- A line with its end. When nothing more will come, what is left is a line. -/
def readLine (limit : Nat) (ended : Bool) (octets : Bytes) : LineRead :=
  let front := octets.takeWhile (· ≠ newline)
  match octets.dropWhile (· ≠ newline) with
  | mark :: rest => if limit < front.length then .overlong true else .line (front ++ [mark]) rest
  | [] =>
    if limit < front.length then .overlong false
    else if ended then .line front [] else .waiting

/-- The method and the target of a request line, whose three parts single spaces divide. -/
def requestLine? (line : Bytes) : Option (Text × Text) :=
  match partsAt ' ' (Latin.decode line).trim with
  | [method, target, version] =>
    if "HTTP/".toList.isPrefixOf version then some (Text.upper method, target) else none
  | _ => none

def isBlankLine (line : Bytes) : Bool := line == [13, 10] || line == [10] || line == []

def headerOf (line : Bytes) : Text × Text :=
  let (name, value) := cutAt ':' (Latin.decode line)
  (Text.lower (Text.trim name), Text.trim value)

/-- A later header takes the place of an earlier one of its name. -/
def addHeader (headers : List (Text × Text)) (h : Text × Text) : List (Text × Text) :=
  headers.filter (fun g => g.1 ≠ h.1) ++ [h]

end RequestHead

inductive HeadRead where
  | waiting
  | silent
  | refused (fault : HeadFault)
  | head (head : RequestHead) (rest : Bytes)
  deriving DecidableEq, Repr

namespace RequestHead

/-- Reads header lines, at most so many. -/
def readHeaders (limit : Nat) (ended : Bool) : Nat → RequestHead → Bytes → HeadRead
  | 0, head, octets => .head head octets
  | lines + 1, head, octets =>
    match readLine limit ended octets with
    | .waiting => .waiting
    | .overlong found => .refused (.overlongLine found)
    | .line line rest =>
      if isBlankLine line then .head head rest
      else
        let headers := addHeader head.headers (headerOf line)
        readHeaders limit ended lines { head with headers } rest

/-- Reads a head. Without any octet there is none. -/
def read (limit : Nat) (ended : Bool) (octets : Bytes) : HeadRead :=
  match readLine limit ended octets with
  | .waiting => .waiting
  | .overlong found => .refused (.overlongLine found)
  | .line line rest =>
    if line = [] then .silent
    else match requestLine? line with
      | none => .refused (.requestLine line)
      | some (method, target) =>
        readHeaders limit ended headerLineLimit { method, target, headers := [] } rest

end RequestHead

end SitePreview
