import SitePreview.Pattern.Syntax
import SitePreview.Text.Blank
import SitePreview.Text.Case

namespace SitePreview

/-- Lower-case letters that share an upper-case form, as classes. -/
def caseClasses : List (List Nat) := [
  [0x69, 0x131], [0x73, 0x17f], [0xb5, 0x3bc], [0x345, 0x3b9, 0x1fbe], [0x390, 0x1fd3],
  [0x3b0, 0x1fe3], [0x3b2, 0x3d0], [0x3b5, 0x3f5], [0x3b8, 0x3d1], [0x3ba, 0x3f0], [0x3c0, 0x3d6],
  [0x3c1, 0x3f1], [0x3c2, 0x3c3], [0x3c6, 0x3d5], [0x432, 0x1c80], [0x434, 0x1c81],
  [0x43e, 0x1c82], [0x441, 0x1c83], [0x442, 0x1c84, 0x1c85], [0x44a, 0x1c86], [0x463, 0x1c87],
  [0x1c88, 0xa64b], [0x1e61, 0x1e9b], [0xfb05, 0xfb06]]

/-- The other members of the class of `n`. -/
def caseRelatives (n : Nat) : List Nat :=
  match caseClasses.find? fun c => c.contains n with
  | some c => c.filter (· != n)
  | none => []

/-- How case is ignored: over all letters or over ASCII alone. -/
structure CaseFold where
  unicode : Bool
  deriving DecidableEq, Repr

namespace CaseFold

def lower (f : CaseFold) (n : Nat) : Nat := if f.unicode then lowerCode n else asciiLowerCode n

def cased (f : CaseFold) (n : Nat) : Bool := if f.unicode then hasCase n else isAsciiLetter n

def relatives (f : CaseFold) (n : Nat) : List Nat := if f.unicode then caseRelatives n else []

def sources (f : CaseFold) (n : Nat) : List Nat :=
  if f.unicode then withLowerForm n
  else if isAsciiUpper n then [] else if isAsciiLower n then [n, n - 32] else [n]

end CaseFold

def CharKind.holds (unicode : Bool) (k : CharKind) (n : Nat) : Bool :=
  match k with
  | .digit => if unicode then isDecimalCode n else isAsciiDigit n
  | .space => if unicode then isBlankCode n else n == 32 || (9 ≤ n && n ≤ 13)
  | .word => if unicode then isWordCode n else isAsciiWord n

def lastBasicCode : Nat := 0xffff

namespace SetMember

def accepts (unicode : Bool) (n : Nat) : SetMember → Bool
  | one c => n == c
  | span a b => a ≤ n && n ≤ b
  | kind k negated => k.holds unicode n != negated

/-- Whether the member makes the set compare lower-case forms. -/
def hasCase (f : CaseFold) : SetMember → Bool
  | one c => f.lower c > lastBasicCode || f.cased c
  | span a b =>
    b > lastBasicCode || (lowerRows ++ upperRows).any fun (first, last, step, _) =>
      let from' := max a first
      let upTo := min b last
      from' ≤ upTo && (f.unicode || first < 128) &&
        (step == 1 || (from' - first) % step == 0 || from' + 1 ≤ upTo)
  | kind _ _ => false

/-- Whether the member accepts a lower-case form. Above the basic plane a single character is
compared as it stands, and a span with the form and with its upper-case form. -/
def acceptsFolded (f : CaseFold) (n : Nat) : SetMember → Bool
  | one c =>
    let c' := f.lower c
    if c' > lastBasicCode then n == c else n == c' || (f.relatives c').contains n
  | span a b =>
    let targets := n :: f.relatives n
    let inBasic := targets.any fun t =>
      (f.sources t).any fun m => a ≤ m && m ≤ b && m ≤ lastBasicCode
    inBasic || (b > lastBasicCode && ((a ≤ n && n ≤ b) || (a ≤ upperCode n && upperCode n ≤ b)))
  | kind k negated => k.holds f.unicode n != negated

end SetMember

def setAccepts (flags : PatternFlags) (negated : Bool) (members : List SetMember) (n : Nat) :
    Bool :=
  let plain := members.any (SetMember.accepts flags.unicode n) != negated
  if flags.ignoreCase then
    let f : CaseFold := ⟨flags.unicode⟩
    if members.any (SetMember.hasCase f) then
      members.any (SetMember.acceptsFolded f (f.lower n)) != negated
    else plain
  else plain

def literalAccepts (flags : PatternFlags) (c n : Nat) : Bool :=
  if flags.ignoreCase then
    let f : CaseFold := ⟨flags.unicode⟩
    if f.cased c then
      let c' := f.lower c
      f.lower n == c' || (f.relatives c').contains (f.lower n)
    else n == c
  else n == c

end SitePreview
