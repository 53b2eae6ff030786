import SitePreview.Conf.Encoding
import SitePreview.Proofs.Utf8Text

namespace SitePreview

/-- What is known of codes by name: the two forms of UTF-8, and how reading fails. -/
structure StandardCodes (read : Text → Bytes → Except CodecFault Text) : Prop where
  utf8 : ∀ name, name.lower = "utf-8".toList → read name = Codec.utf8.read
  markedUtf8 : read "utf-8-sig".toList = Codec.markedUtf8.read
  fault : ∀ name bs e, read name bs = .error e → IsUnread (read name bs)

theorem StandardCodes.read_utf8 {read : Text → Bytes → Except CodecFault Text} (h : StandardCodes read) :
    read "utf-8".toList = Codec.utf8.read := h.utf8 _ (by decide +kernel)

namespace Codec

theorem standardCodes_readNamed : StandardCodes readNamed where
  utf8 name h := readNamed_of_name (by rw [ofName?, h]; decide +kernel)
  markedUtf8 := readNamed_of_name (by decide +kernel)
  fault _ _ _ h := isUnread_readNamed h

theorem utf8Mark_eq : utf8Mark = Utf8.encode ['\ufeff'] := by decide

theorem read_utf8_encode (t : Text) : utf8.read (Utf8.encode t) = .ok t :=
  read_of_decode (Utf8.decode?_encode t)

theorem read_markedUtf8_encode (t : Text) : markedUtf8.read (utf8Mark ++ Utf8.encode t) = .ok t := by
  have hmark : hasUtf8Mark (utf8Mark ++ Utf8.encode t) = true := by simp [hasUtf8Mark]
  refine read_of_decode ?_
  rw [decode?, if_pos hmark, List.drop_left, Utf8.decode?_encode]

/-- Only a text that begins with the mark as a character has the mark as its first octets. -/
theorem hasUtf8Mark_encode {t : Text} (h : t.head? ≠ some '\ufeff') : hasUtf8Mark (Utf8.encode t) = false := by
  rw [hasUtf8Mark, Bool.eq_false_iff]
  intro hmark
  obtain ⟨rest, hrest⟩ := List.isPrefixOf_iff_prefix.mp hmark
  have hread := Utf8.decode?_encode t
  rw [← hrest, utf8Mark_eq, Utf8.decode?_encode_append] at hread
  obtain ⟨s, _, rfl⟩ := Option.map_eq_some_iff.mp hread
  exact h rfl

end Codec

namespace Encoding

/-- What a detector says leaves octets to UTF-8. The code that counts is the one that the named code is
widened to. -/
inductive LeavesToUtf8 (read : Text → Bytes → Except CodecFault Text) (bs : Bytes) (found : Detection) :
    Prop
  | unnamed (h : found.encoding = none ∨ found.encoding = some [])
  | unsure (h : found.confidence ≤ leastConfidence)
  | plain {name : Text} (h : found.encoding = some name)
      (hname : name.lower = "ascii".toList ∨ name.lower = "utf-8".toList)
  | unread {name : Text} (h : found.encoding = some name) (hread : IsUnread (read (widened name) bs))

variable {read : Text → Bytes → Except CodecFault Text} {detect : Bytes → Detection} {bs : Bytes}
  {name t : Text}

theorem readFirst_candidates {detected : Option Text} (hutf8 : read "utf-8".toList bs = .ok t)
    (hdetected : ∀ name ∈ detected, read name bs = .ok t ∨ IsUnread (read name bs)) :
    readFirst read bs (candidates detected) = .ok t := by
  cases detected with
  | none => exact readFirst_of_read hutf8
  | some name =>
    rcases hdetected name rfl with hname | hname
    · exact readFirst_of_read hname
    · have hother : some "utf-8".toList ≠ some name := by
        rintro ⟨⟩
        rcases hname with hname | hname <;> cases hutf8.symm.trans hname
      rw [candidates, Option.toList_some, List.singleton_append, readFirst_of_unread hname, usual,
        List.filter_cons_of_pos (by simpa using hother)]
      exact readFirst_of_read hutf8

theorem detected?_of_marked (h : Codec.hasUtf8Mark bs = true) (detect : Bytes → Detection) :
    detected? detect bs = some "utf-8-sig".toList := by
  rw [detected?, if_pos h]

theorem detected?_of_unmarked (h : Codec.hasUtf8Mark bs = false) (hname : name ∈ detected? detect bs) :
    ∃ found, (detect bs).encoding = some found ∧ found ≠ [] ∧
      leastConfidence < (detect bs).confidence ∧ name = widened found := by
  rw [detected?, if_neg (by simp [h])] at hname
  cases hfound : (detect bs).encoding with
  | none => simp [hfound] at hname
  | some found =>
    cases found with
    | nil => simp [hfound] at hname
    | cons c cs =>
      by_cases hsure : leastConfidence < (detect bs).confidence
      · simp only [hfound, if_pos hsure, Option.mem_def, Option.some.injEq] at hname
        exact ⟨c :: cs, rfl, by simp, hsure, hname.symm⟩
      · simp [hfound, hsure] at hname

theorem widened_of_ascii (h : name.lower = "ascii".toList) : widened name = "utf-8".toList := by
  rw [widened, h, if_neg (by decide), if_pos rfl]

theorem widened_of_utf8 (h : name.lower = "utf-8".toList) : widened name = name := by
  rw [widened, h, if_neg (by decide), if_neg (by decide)]

/-- The code that a detector names reads a UTF-8 text as that text or not at all, where it leaves the text
to UTF-8. -/
theorem LeavesToUtf8.read_detected (hread : StandardCodes read)
    (h : LeavesToUtf8 read bs (detect bs)) (hmark : Codec.hasUtf8Mark bs = false)
    (hutf8 : Codec.utf8.read bs = .ok t) (hname : name ∈ detected? detect bs) :
    read name bs = .ok t ∨ IsUnread (read name bs) := by
  obtain ⟨found, hfound, hfilled, hsure, rfl⟩ := detected?_of_unmarked hmark hname
  cases h with
  | unnamed hnone => simp [hfound, hfilled] at hnone
  | unsure hleast => exact absurd hsure (not_lt.mpr hleast)
  | plain hplain hlower =>
    cases hfound.symm.trans hplain
    left
    rcases hlower with hlower | hlower
    · rw [widened_of_ascii hlower, hread.read_utf8, hutf8]
    · rw [widened_of_utf8 hlower, hread.utf8 _ hlower, hutf8]
  | unread hplain hunread =>
    cases hfound.symm.trans hplain
    exact .inr hunread

/-- Octets are always read. Behind its mark a UTF-8 text is read as it stands, and so is one without a
mark that the detector leaves to UTF-8. -/
theorem decodeBy_encode (hread : StandardCodes read) (detect : Bytes → Detection) :
    (∀ bs, ∃ t, decodeBy read detect bs = .ok t) ∧
      (∀ t, decodeBy read detect (Codec.utf8Mark ++ Utf8.encode t) = .ok t) ∧
      ∀ t : Text, t.head? ≠ some '\ufeff' →
        LeavesToUtf8 read (Utf8.encode t) (detect (Utf8.encode t)) →
        decodeBy read detect (Utf8.encode t) = .ok t := by
  refine ⟨fun bs => exists_readFirst hread.fault bs _, fun t => ?_, fun t ht hleaves => ?_⟩
  · have hmark : Codec.hasUtf8Mark (Codec.utf8Mark ++ Utf8.encode t) = true := by
      simp [Codec.hasUtf8Mark]
    rw [decodeBy, detected?_of_marked hmark]
    refine readFirst_of_read ?_
    rw [hread.markedUtf8, Codec.read_markedUtf8_encode]
  · have hutf8 := Codec.read_utf8_encode t
    have hmark := Codec.hasUtf8Mark_encode ht
    refine readFirst_candidates ?_ fun name hname =>
      hleaves.read_detected hread hmark hutf8 hname
    rw [hread.read_utf8, hutf8]

/-- Three octets that break off within the second character of the code that GB2312 is widened to. -/
theorem decodeBy_encode_brokenOff :
    let detect : Bytes → Detection := fun _ => { encoding := some "GB2312".toList, confidence := 9 / 10 }
    let t : Text := ['中']
    StandardCodes Codec.readNamed ∧ t.head? ≠ some '\ufeff' ∧
      LeavesToUtf8 Codec.readNamed (Utf8.encode t) (detect (Utf8.encode t)) ∧
      decodeBy Codec.readNamed detect (Codec.utf8Mark ++ Utf8.encode t) = .ok t ∧
      decodeBy Codec.readNamed detect (Utf8.encode t) = .ok t ∧ decode detect (Utf8.encode t) = t := by
  intro detect t
  have hread : StandardCodes Codec.readNamed := Codec.standardCodes_readNamed
  have ht : t.head? ≠ some '\ufeff' := by decide
  have hrefused : Codec.readNamed (widened "GB2312".toList) (Utf8.encode t) = .error .badOctets := by
    decide +kernel
  have hleaves : LeavesToUtf8 Codec.readNamed (Utf8.encode t) (detect (Utf8.encode t)) :=
    .unread rfl (.inr hrefused)
  obtain ⟨_, hmarked, hplain⟩ := decodeBy_encode hread detect
  have hdecoded := hplain t ht hleaves
  exact ⟨hread, ht, hleaves, hmarked t, hdecoded,
    Except.ok.inj ((decodeBy_readNamed detect _).symm.trans hdecoded)⟩

/-- A detected GBK that refuses the octets does not leave them to UTF-8 where the code that it is widened
to reads them. -/
theorem decode_refused_by_gbk :
    let detect : Bytes → Detection := fun _ => { encoding := some "gbk".toList, confidence := 3 / 5 }
    let t : Text := ['中', '文']
    StandardCodes Codec.readNamed ∧ t.head? ≠ some '\ufeff' ∧
      (detect (Utf8.encode t)).encoding = some "gbk".toList ∧
      Codec.readNamed "gbk".toList (Utf8.encode t) = .error .badOctets ∧
      decodeBy Codec.readNamed detect (Utf8.encode t) = .ok ['涓', '\ue15f', '枃'] ∧
      decode detect (Utf8.encode t) ≠ t := by
  intro detect t
  have hdecoded : decodeBy Codec.readNamed detect (Utf8.encode t) = .ok ['涓', '\ue15f', '枃'] := by
    decide +kernel
  have hother : decode detect (Utf8.encode t) = ['涓', '\ue15f', '枃'] :=
    Except.ok.inj ((decodeBy_readNamed detect _).symm.trans hdecoded)
  refine ⟨Codec.standardCodes_readNamed, by decide, rfl, by decide +kernel, hdecoded, ?_⟩
  rw [hother]
  decide

end Encoding

end SitePreview
