import SitePreview.Serving.HostAddress
import SitePreview.Text.Percent
import SitePreview.Text.Quoted

namespace SitePreview

inductive TargetFault where
  | unbalancedBrackets
  | futureAddress
  | bracketedVersion4
  | unknownAddress (host : Text)
  | unstableAuthority (authority : Text)
  deriving DecidableEq, Repr

namespace TargetFault

def message : TargetFault → Text
  | unbalancedBrackets => "Invalid IPv6 URL".toList
  | futureAddress => "IPvFuture address is invalid".toList
  | bracketedVersion4 => "An IPv4 address cannot be in brackets".toList
  | unknownAddress host =>
    Quoted.text host ++ " does not appear to be an IPv4 or IPv6 address".toList
  | unstableAuthority authority =>
    "netloc '".toList ++ authority ++
      "' contains invalid characters under NFKC normalization".toList

end TargetFault

namespace Target

def barePath (s : Text) : Text := s.takeWhile fun c => c ≠ '?' && c ≠ '#'

def isControlOrSpace (c : Char) : Bool := c.toNat ≤ 0x20

def isLineCharacter (c : Char) : Bool := c == '\t' || c == '\r' || c == '\n'

/-- Leading controls and spaces are dropped, and tabs and line ends everywhere. -/
def cleaned (s : Text) : Text := (s.dropWhile isControlOrSpace).filter fun c => !isLineCharacter c

def isLetter (c : Char) : Bool := ('a' ≤ c && c ≤ 'z') || ('A' ≤ c && c ≤ 'Z')

def isSchemeCharacter (c : Char) : Bool :=
  isLetter c || Text.isDigit c || c == '+' || c == '-' || c == '.'

/-- What follows the scheme, if the text begins with one. -/
def afterScheme (s : Text) : Text :=
  let scheme := s.takeWhile (· ≠ ':')
  if s.contains ':' && (scheme.head?.any isLetter) && scheme.all isSchemeCharacter then
    (s.dropWhile (· ≠ ':')).tail
  else s

def endsAuthority (c : Char) : Bool := c == '/' || c == '?' || c == '#'

def splitAuthority (s : Text) : Text × Text :=
  match s with
  | '/' :: '/' :: rest =>
    (rest.takeWhile fun c => !endsAuthority c, rest.dropWhile fun c => !endsAuthority c)
  | _ => ([], s)

/-- Characters whose compatibility form holds a delimiter. -/
def unstableCharacters : Text := [
  '\u2047', '\u2048', '\u2049', '\u2100', '\u2101', '\u2105', '\u2106', '\u2a74', '\ufe13',
  '\ufe16', '\ufe55', '\ufe56', '\ufe5f', '\ufe6b', '\uff03', '\uff0f', '\uff1a', '\uff1f',
  '\uff20']

def bracketedHost (authority : Text) : Text := (cutAt ']' (cutAt '[' authority).2).1

def checkHost (host : Text) : Except TargetFault Unit :=
  if host.head? = some 'v' then
    if HostAddress.isFuture host then .ok () else .error .futureAddress
  else if HostAddress.isVersion4 host then .error .bracketedVersion4
  else if HostAddress.isVersion6 host then .ok ()
  else .error (.unknownAddress host)

def checkAuthority (authority : Text) : Except TargetFault Unit := do
  if authority.contains '[' != authority.contains ']' then throw .unbalancedBrackets
  if authority.contains '[' then checkHost (bracketedHost authority)
  if authority.any fun c => unstableCharacters.contains c then
    throw (.unstableAuthority authority)

def pathOfAddress (target : Text) : Except TargetFault Text := do
  let (authority, rest) := splitAuthority (afterScheme (cleaned target))
  checkAuthority authority
  return barePath rest

def rawPath (target : Text) : Except TargetFault Text :=
  if target.head? = some '/' then .ok (barePath target) else pathOfAddress target

def orRoot (path : Text) : Text := if path = [] then ['/'] else path

/-- The decoded path of a target. An empty one stands for the root. -/
def path (target : Text) : Except TargetFault Text :=
  (rawPath target).map fun raw => orRoot (Percent.decode raw)

end Target

end SitePreview
