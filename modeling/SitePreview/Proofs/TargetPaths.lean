import Mathlib
import SitePreview.Proofs.Utf8Text
import SitePreview.Serving.Target

namespace SitePreview

namespace Percent

/-- A digit that writes a number below sixteen, a letter in either case. -/
def IsHexDigit (n : Nat) (c : Char) : Prop := c = n.digitChar ∨ c = n.digitChar.toUpper

/-- How an octet may be written in a target: escaped, or as the ASCII character that it codes, unless
this begins an escape, a query or a fragment. -/
inductive Writes (octet : UInt8) : Text → Prop
  | escaped {high low} : IsHexDigit (octet.toNat / 16) high → IsHexDigit (octet.toNat % 16) low →
      Writes octet ['%', high, low]
  | plain {c : Char} : c.toNat = octet.toNat → c.toNat < 128 → c ∉ ['%', '?', '#'] → Writes octet [c]

/-- A character that may stand in the path of a target. -/
def IsPathCharacter (c : Char) : Prop := isAscii c = true ∧ c ≠ '?' ∧ c ≠ '#'

variable {octet : UInt8} {form s : Text} {forms : List Text} {bs : Bytes}

theorem hexValue?_digitChar : ∀ n < 16,
    Text.hexValue? n.digitChar = some n ∧ Text.hexValue? n.digitChar.toUpper = some n := by decide

theorem isPathCharacter_digitChar : ∀ n < 16,
    (isAscii n.digitChar = true ∧ n.digitChar ≠ '?' ∧ n.digitChar ≠ '#') ∧
      isAscii n.digitChar.toUpper = true ∧ n.digitChar.toUpper ≠ '?' ∧ n.digitChar.toUpper ≠ '#' := by
  decide

theorem IsHexDigit.hexValue? {n : Nat} {c : Char} (hn : n < 16) (h : IsHexDigit n c) :
    Text.hexValue? c = some n := by
  rcases h with rfl | rfl
  · exact (hexValue?_digitChar n hn).1
  · exact (hexValue?_digitChar n hn).2

theorem IsHexDigit.isPathCharacter {n : Nat} {c : Char} (hn : n < 16) (h : IsHexDigit n c) :
    IsPathCharacter c := by
  rcases h with rfl | rfl
  · exact (isPathCharacter_digitChar n hn).1
  · exact (isPathCharacter_digitChar n hn).2

theorem octets_cons_of_ne {c : Char} (h : c ≠ '%') (rest : Text) :
    octets (c :: rest) = UInt8.ofNat c.toNat :: octets rest := by
  rw [octets]
  rintro a b more rfl
  exact absurd rfl h

theorem Writes.octets_append (h : Writes octet form) (rest : Text) :
    octets (form ++ rest) = octet :: octets rest := by
  have hlt : octet.toNat < 256 := octet.toNat_lt
  cases h with
  | escaped hhigh hlow =>
    have hsum : 16 * (octet.toNat / 16) + octet.toNat % 16 = octet.toNat := by omega
    simp only [List.cons_append, List.nil_append, octets, hhigh.hexValue? (by omega),
      hlow.hexValue? (by omega), hsum, UInt8.ofNat_toNat]
  | plain hc _ hnot =>
    have hpercent := (List.ne_and_not_mem_of_not_mem_cons hnot).1
    rw [List.singleton_append, octets_cons_of_ne hpercent, hc, UInt8.ofNat_toNat]

theorem Writes.isPathCharacter (h : Writes octet form) : ∀ c ∈ form, IsPathCharacter c := by
  have hlt : octet.toNat < 256 := octet.toNat_lt
  cases h with
  | escaped hhigh hlow =>
    have hpercent : IsPathCharacter '%' := ⟨by decide, by decide, by decide⟩
    simpa using ⟨hpercent, hhigh.isPathCharacter (by omega), hlow.isPathCharacter (by omega)⟩
  | plain _ hascii hnot =>
    simp only [List.mem_cons, List.not_mem_nil, or_false, not_or] at hnot
    have hc : IsPathCharacter _ := ⟨decide_eq_true hascii, hnot.2⟩
    simpa using hc

theorem octets_flatten (h : List.Forall₂ Writes bs forms) : octets forms.flatten = bs := by
  induction h with
  | nil => rfl
  | cons hform _ ih => rw [List.flatten_cons, hform.octets_append, ih]

theorem isPathCharacter_flatten (h : List.Forall₂ Writes bs forms) :
    ∀ c ∈ forms.flatten, IsPathCharacter c := by
  induction h with
  | nil => simp
  | cons hform _ ih =>
    rw [List.flatten_cons]
    exact List.forall_mem_append.mpr ⟨hform.isPathCharacter, ih⟩

theorem decode_of_ascii (h : ∀ c ∈ s, isAscii c = true) : decode s = Utf8.decodeLossy (octets s) := by
  cases s with
  | nil => simp [decode, octets, Utf8.decodeLossy, Utf8.lossyCodes]
  | cons c s =>
    obtain ⟨hc, hs⟩ := List.forall_mem_cons.mp h
    rw [decode, if_pos hc, List.takeWhile_eq_self_iff.mpr hs, List.dropWhile_eq_nil_iff.mpr hs, decode,
      List.append_nil]

/-- However the octets of a text are written, decoding them gives the text. -/
theorem decode_of_writes (h : List.Forall₂ Writes (Utf8.encode s) forms) : decode forms.flatten = s := by
  rw [decode_of_ascii fun c hc => (isPathCharacter_flatten h c hc).1, octets_flatten h,
    Utf8.decodeLossy_encode]

end Percent

namespace Target

variable {authority p query rest : Text} {forms : List Text}

theorem path_of_slash (s : Text) :
    path ('/' :: s) = .ok (orRoot (Percent.decode (barePath ('/' :: s)))) := rfl

theorem barePath_append {s : Text} (hs : ∀ c ∈ s, c ≠ '?' ∧ c ≠ '#')
    (hquery : query = [] ∨ query.head? = some '?' ∨ query.head? = some '#') :
    barePath (s ++ query) = s := by
  have hall : ∀ c ∈ s, (c ≠ '?' && c ≠ '#') = true := by
    intro c hc
    simpa using hs c hc
  have hstop : query.takeWhile (fun c => c ≠ '?' && c ≠ '#') = [] := by
    cases query with
    | nil => rfl
    | cons c cs =>
      rcases hquery with h | h | h
      · cases h
      · cases h
        rfl
      · cases h
        rfl
  rw [barePath, List.takeWhile_append_of_pos hall, hstop, List.append_nil]

/-- A path is read from a target as it is, once, however its octets are written and whatever query or
fragment follows. -/
theorem path_of_writes
    (hforms : List.Forall₂ Percent.Writes (rest.flatMap String.utf8EncodeChar) forms)
    (hquery : query = [] ∨ query.head? = some '?' ∨ query.head? = some '#') :
    path ('/' :: forms.flatten ++ query) = .ok ('/' :: rest) := by
  have hslash : Percent.Writes 47 ['/'] := .plain (by decide) (by decide) (by decide)
  have hwhole : List.Forall₂ Percent.Writes (Utf8.encode ('/' :: rest)) (['/'] :: forms) := by
    rw [Utf8.encode_eq]
    exact .cons hslash hforms
  have hdecoded : Percent.decode ('/' :: forms.flatten) = '/' :: rest := Percent.decode_of_writes hwhole
  have hbare : barePath ('/' :: forms.flatten ++ query) = '/' :: forms.flatten :=
    barePath_append (fun c hc => (Percent.isPathCharacter_flatten hwhole c hc).2) hquery
  rw [List.cons_append, path_of_slash, ← List.cons_append, hbare, hdecoded]
  rfl

/-- A path that holds an escape, a mark and a fragment sign of its own, its octets written in several
ways. -/
theorem path_of_writes_escape :
    List.Forall₂ Percent.Writes ("%41é?#b".toList.flatMap String.utf8EncodeChar)
        ["%25".toList, "4".toList, "%31".toList, "%c3".toList, "%A9".toList, "%3F".toList, "%23".toList,
          "b".toList] ∧
      ("?a#b".toList = [] ∨ "?a#b".toList.head? = some '?' ∨ "?a#b".toList.head? = some '#') ∧
      path "/%254%31%c3%A9%3F%23b?a#b".toList = .ok "/%41é?#b".toList := by
  have hforms : List.Forall₂ Percent.Writes ("%41é?#b".toList.flatMap String.utf8EncodeChar)
      ["%25".toList, "4".toList, "%31".toList, "%c3".toList, "%A9".toList, "%3F".toList, "%23".toList,
        "b".toList] := by
    have hoctets : "%41é?#b".toList.flatMap String.utf8EncodeChar = [37, 52, 49, 195, 169, 63, 35, 98] := by
      decide +kernel
    rw [hoctets]
    exact .cons (.escaped (.inl rfl) (.inl rfl)) <| .cons (.plain rfl (by decide) (by decide)) <|
      .cons (.escaped (.inl rfl) (.inl rfl)) <| .cons (.escaped (.inl rfl) (.inl rfl)) <|
      .cons (.escaped (.inr rfl) (.inl rfl)) <| .cons (.escaped (.inl rfl) (.inr rfl)) <|
      .cons (.escaped (.inl rfl) (.inl rfl)) <| .cons (.plain rfl (by decide) (by decide)) .nil
  have hquery : "?a#b".toList = [] ∨ "?a#b".toList.head? = some '?' ∨ "?a#b".toList.head? = some '#' :=
    .inr (.inl rfl)
  exact ⟨hforms, hquery, path_of_writes hforms hquery⟩

/-- A character of an authority that names a host and a port. -/
def IsHostCharacter (c : Char) : Prop := c.isAlphanum = true ∨ c ∈ ['.', '-', ':']

instance : DecidablePred IsHostCharacter := fun c =>
  inferInstanceAs (Decidable (c.isAlphanum = true ∨ c ∈ ['.', '-', ':']))

theorem IsHostCharacter.ne {c d : Char} (h : IsHostCharacter c) (hd : ¬IsHostCharacter d) : c ≠ d := by
  rintro rfl
  exact hd h

theorem IsHostCharacter.isLineCharacter_eq {c : Char} (h : IsHostCharacter c) :
    isLineCharacter c = false := by
  simp [isLineCharacter, h.ne (d := '\t') (by decide), h.ne (d := '\r') (by decide),
    h.ne (d := '\n') (by decide)]

theorem IsHostCharacter.endsAuthority_eq {c : Char} (h : IsHostCharacter c) :
    endsAuthority c = false := by
  simp [endsAuthority, h.ne (d := '/') (by decide), h.ne (d := '?') (by decide),
    h.ne (d := '#') (by decide)]

theorem IsHostCharacter.lt {c : Char} (h : IsHostCharacter c) : c.toNat < 128 := by
  rcases h with h | h
  · simp only [Char.isAlphanum, Char.isAlpha, Char.isUpper, Char.isLower, Char.isDigit,
      Bool.or_eq_true, Bool.and_eq_true, decide_eq_true_eq, ge_iff_le, UInt32.le_iff_toNat_le] at h
    have hZ : 'Z'.val.toNat = 90 := rfl
    have hz : 'z'.val.toNat = 122 := rfl
    have h9 : '9'.val.toNat = 57 := rfl
    show c.val.toNat < 128
    omega
  · simp only [List.mem_cons, List.not_mem_nil, or_false] at h
    rcases h with rfl | rfl | rfl <;> decide

theorem not_mem_unstableCharacters {c : Char} (h : c.toNat < 128) : c ∉ unstableCharacters := by
  intro hc
  have hall : (unstableCharacters.all fun d => 128 ≤ d.toNat) = true := by decide
  have hhigh : 128 ≤ c.toNat := by simpa using List.all_eq_true.mp hall c hc
  omega

theorem checkAuthority_of_host (h : ∀ c ∈ authority, IsHostCharacter c) :
    checkAuthority authority = .ok () := by
  have hopening : authority.contains '[' = false := by
    simpa using fun hmem => (h '[' hmem).ne (by decide) rfl
  have hclosing : authority.contains ']' = false := by
    simpa using fun hmem => (h ']' hmem).ne (by decide) rfl
  have hstable : (authority.any fun c => unstableCharacters.contains c) = false := by
    simpa using fun c hc => not_mem_unstableCharacters (h c hc).lt
  simp only [checkAuthority, hopening, hclosing, hstable]
  rfl

theorem splitAuthority_of_host (h : ∀ c ∈ authority, IsHostCharacter c) (hp : p.head? = some '/') :
    splitAuthority ('/' :: '/' :: (authority ++ p)) = (authority, p) := by
  have hall : ∀ c ∈ authority, (!endsAuthority c) = true := by
    intro c hc
    simp [(h c hc).endsAuthority_eq]
  obtain ⟨rest, rfl⟩ := List.head?_eq_some_iff.mp hp
  rw [splitAuthority, List.takeWhile_append_of_pos hall, List.dropWhile_append_of_pos hall]
  simp [endsAuthority]

theorem cleaned_of_host (h : ∀ c ∈ authority, IsHostCharacter c) (p : Text) :
    cleaned ("http://".toList ++ authority ++ p) =
      "http:".toList ++ '/' :: '/' :: (authority ++ p.filter fun c => !isLineCharacter c) := by
  have hkept : (authority.filter fun c => !isLineCharacter c) = authority :=
    List.filter_eq_self.mpr fun c hc => by simp [(h c hc).isLineCharacter_eq]
  have hfront : (("http://".toList ++ authority ++ p).dropWhile isControlOrSpace) =
      "http://".toList ++ authority ++ p := rfl
  rw [cleaned, hfront, List.filter_append, List.filter_append, hkept]
  rfl

theorem afterScheme_http (s : Text) : afterScheme ("http:".toList ++ s) = s := by
  have hcolon : ':' ∉ "http".toList := by decide
  have hscheme := takeWhile_ne_append_cons hcolon s
  have hrest := dropWhile_ne_append_cons hcolon s
  have hwhole : "http:".toList ++ s = "http".toList ++ ':' :: s := rfl
  rw [afterScheme, hwhole, hscheme, hrest]
  simp only [List.tail_cons]
  refine if_pos ?_
  have hmem : ("http".toList ++ ':' :: s).contains ':' = true := by simp
  rw [hmem]
  decide

/-- A target with a scheme and an authority has the path of what stands behind them, read without its
tabs and line ends. -/
theorem path_of_address (hauthority : ∀ c ∈ authority, IsHostCharacter c) (hp : p.head? = some '/') :
    ∃ found, path ("http://".toList ++ authority ++ p) = .ok found ∧
      path (p.filter (· ∉ ['\t', '\r', '\n'])) = .ok found := by
  have hkept : (p.filter fun c => !isLineCharacter c) = p.filter (· ∉ ['\t', '\r', '\n']) := by
    refine List.filter_congr fun c _ => ?_
    rw [Bool.eq_iff_iff]
    simp [isLineCharacter, and_assoc]
  obtain ⟨rest, hrest⟩ : ∃ rest, p.filter (· ∉ ['\t', '\r', '\n']) = '/' :: rest := by
    obtain ⟨rest, rfl⟩ := List.head?_eq_some_iff.mp hp
    exact ⟨_, List.filter_cons_of_pos (by decide)⟩
  have hhead : (p.filter (· ∉ ['\t', '\r', '\n'])).head? = some '/' := by rw [hrest]; rfl
  refine ⟨orRoot (Percent.decode (barePath ('/' :: rest))), ?_, by rw [hrest, path_of_slash]⟩
  have haddress : rawPath ("http://".toList ++ authority ++ p) = .ok (barePath ('/' :: rest)) := by
    have hsplit := splitAuthority_of_host hauthority hhead
    rw [rawPath, if_neg (by simp), pathOfAddress, cleaned_of_host hauthority, afterScheme_http, hkept,
      hsplit, hrest]
    simp only [checkAuthority_of_host hauthority]
    rfl
  rw [path, haddress]
  rfl

theorem path_of_address_delimiters :
    (∀ c ∈ "h.x-1:80".toList, IsHostCharacter c) ∧ "/a\tb//@[%41?x#c?d".toList.head? = some '/' ∧
      ∃ found, path ("http://".toList ++ "h.x-1:80".toList ++ "/a\tb//@[%41?x#c?d".toList) = .ok found ∧
        path ("/a\tb//@[%41?x#c?d".toList.filter (· ∉ ['\t', '\r', '\n'])) = .ok found := by
  have hauthority : ∀ c ∈ "h.x-1:80".toList, IsHostCharacter c := by
    have hall : ("h.x-1:80".toList.all fun c => decide (IsHostCharacter c)) = true := by decide
    exact fun c hc => of_decide_eq_true (List.all_eq_true.mp hall c hc)
  exact ⟨hauthority, rfl, path_of_address hauthority rfl⟩

end Target

end SitePreview
