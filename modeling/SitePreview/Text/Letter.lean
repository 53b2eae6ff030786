import SitePreview.Text.LetterTable
import SitePreview.Text.IdentifierTable
import SitePreview.Text.PrintTable

namespace SitePreview

def inRanges (ranges : List (Nat × Nat)) (n : Nat) : Bool :=
  ranges.any fun r => r.1 ≤ n && n ≤ r.2

def isAsciiUpper (n : Nat) : Bool := 0x41 ≤ n && n ≤ 0x5a

def isAsciiLower (n : Nat) : Bool := 0x61 ≤ n && n ≤ 0x7a

def isAsciiLetter (n : Nat) : Bool := isAsciiUpper n || isAsciiLower n

def isAsciiDigit (n : Nat) : Bool := 0x30 ≤ n && n ≤ 0x39

def isAsciiWord (n : Nat) : Bool := isAsciiLetter n || isAsciiDigit n || n == 0x5f

def isLetterCode (n : Nat) : Bool :=
  if n < 128 then isAsciiLetter n else inRanges letterRanges n

def isNumeralCode (n : Nat) : Bool :=
  if n < 128 then isAsciiDigit n else inRanges numeralRanges n

def isDecimalCode (n : Nat) : Bool :=
  if n < 128 then isAsciiDigit n else inRanges decimalRanges n

/-- The value of a decimal digit of any script. -/
def decimalValue? (n : Nat) : Option Nat :=
  if n < 128 then if isAsciiDigit n then some (n - 0x30) else none
  else (decimalRanges.find? fun r => r.1 ≤ n && n ≤ r.2).map fun r => (n - r.1) % 10

def isWordCode (n : Nat) : Bool :=
  if n < 128 then isAsciiWord n else isLetterCode n || isNumeralCode n

def beginsIdentifier (n : Nat) : Bool :=
  if n < 128 then isAsciiLetter n || n == 0x5f else inRanges identifierStartRanges n

def continuesIdentifier (n : Nat) : Bool :=
  if n < 128 then isAsciiWord n
  else inRanges identifierStartRanges n || inRanges identifierRestRanges n

def isIdentifier : List Char → Bool
  | [] => false
  | c :: cs => beginsIdentifier c.toNat && cs.all fun d => continuesIdentifier d.toNat

def isPrintable (n : Nat) : Bool :=
  if n < 128 then 0x20 ≤ n && n ≤ 0x7e else !inRanges unprintableRanges n

end SitePreview
