import SitePreview.Text.Codec

namespace SitePreview

structure Detection where
  encoding : Option Text := none
  confidence : Rat := 0
  deriving DecidableEq, Repr

namespace Encoding

def leastConfidence : Rat := 1 / 2

def usual : List Text := ["utf-8".toList, "gbk".toList, "gb18030".toList]

/-- A detected name with its nearest superset in its place. -/
def widened (name : Text) : Text :=
  if name.lower = "gb2312".toList ∨ name.lower = "gbk".toList then "gb18030".toList
  else if name.lower = "ascii".toList then "utf-8".toList
  else name

/-- The name of the encoding, if the mark or the detector shows one. -/
def detected? (detect : Bytes → Detection) (bs : Bytes) : Option Text :=
  if Codec.hasUtf8Mark bs then some "utf-8-sig".toList
  else
    let found := detect bs
    match found.encoding with
    | none | some [] => none
    | some name => if leastConfidence < found.confidence then some (widened name) else none

def candidates (detected : Option Text) : List Text :=
  detected.toList ++ usual.filter fun name => some name ≠ detected

/-- Reads octets under one name after the other. A name that is unknown or whose code refuses the octets
leads to the next, and after the last one broken parts are replaced. Any other fault is not made good. -/
def readFirst (read : Text → Bytes → Except CodecFault Text) (bs : Bytes) : List Text → Except Text Text
  | [] => .ok (Utf8.decodeLossy bs)
  | name :: names =>
    match read name bs with
    | .ok s => .ok s
    | .error .unknownName | .error .badOctets => readFirst read bs names
    | .error (.other why) => .error why

section ReadFirst

variable {read : Text → Bytes → Except CodecFault Text} {bs : Bytes} {name : Text} {names : List Text}

theorem readFirst_of_read {s : Text} (h : read name bs = .ok s) :
    readFirst read bs (name :: names) = .ok s := by
  rw [readFirst, h]

theorem readFirst_of_unread (h : IsUnread (read name bs)) :
    readFirst read bs (name :: names) = readFirst read bs names := by
  rcases h with h | h <;> rw [readFirst, h]

theorem exists_readFirst (hread : ∀ name bs e, read name bs = .error e → IsUnread (read name bs))
    (bs : Bytes) (names : List Text) : ∃ s, readFirst read bs names = .ok s := by
  induction names with
  | nil => exact ⟨_, rfl⟩
  | cons name names ih =>
    cases h : read name bs with
    | ok s => exact ⟨s, readFirst_of_read h⟩
    | error e =>
      rw [readFirst_of_unread (hread name bs e h)]
      exact ih

end ReadFirst

/-- The text of octets, however octets are read under a name. -/
def decodeBy (read : Text → Bytes → Except CodecFault Text) (detect : Bytes → Detection) (bs : Bytes) :
    Except Text Text :=
  readFirst read bs (candidates (detected? detect bs))

def sampleSize : Nat := 100000

def sampled (detect : Bytes → Detection) (bs : Bytes) : Detection := detect (bs.take sampleSize)

theorem exists_decodeBy_readNamed (detect : Bytes → Detection) (bs : Bytes) :
    ∃ s, decodeBy Codec.readNamed detect bs = .ok s :=
  exists_readFirst (fun _ _ _ h => Codec.isUnread_readNamed h) bs _

/-- The text of octets, read in the codes that are known here. -/
def decode (detect : Bytes → Detection) (bs : Bytes) : Text :=
  match h : decodeBy Codec.readNamed detect bs with
  | .ok s => s
  | .error _ => absurd h (by
    obtain ⟨s, hs⟩ := exists_decodeBy_readNamed detect bs
    simp [hs])

theorem decodeBy_readNamed (detect : Bytes → Detection) (bs : Bytes) :
    decodeBy Codec.readNamed detect bs = .ok (decode detect bs) := by
  unfold decode
  split
  · assumption
  · rename_i e h
    obtain ⟨s, hs⟩ := exists_decodeBy_readNamed detect bs
    cases hs.symm.trans h

end Encoding

end SitePreview
