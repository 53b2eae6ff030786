import Mathlib
import SitePreview.Text.Utf8

namespace SitePreview.Utf8

theorem continueFront_cons {more code size b : Nat} {rest : List Nat} (low : 0x80 ≤ b) (high : b ≤ 0xbf) :
    continueFront (more + 1) code size (b :: rest) =
      continueFront more (64 * code + (b - 0x80)) (size + 1) rest := by
  have hb : isContinuation b = true := by simp [isContinuation, low, high]
  rw [continueFront, if_pos hb]

/-- Behind a lead octet that more follow the first of them has bounds of its own. -/
theorem front_cons {lead more low high b : Nat} {rest : List Nat}
    (hfollow : follow lead = some (more, low, high)) (hlead : 0x80 ≤ lead) (hb : low ≤ b ∧ b ≤ high) :
    front lead (b :: rest) = continueFront (more - 1)
      (64 * (if more = 1 then lead - 0xc0 else if more = 2 then lead - 0xe0 else lead - 0xf0) +
        (b - 0x80)) 2 rest := by
  rw [front, if_neg (by omega), hfollow]
  simp only [if_pos hb]

/-- The octets of a code are read back as that code, whatever follows them. -/
theorem front_encodeCode {n : Nat} (h : n.isValidChar) (rest : List Nat) :
    ∃ lead more, encodeCode n = lead :: more ∧
      front lead (more ++ rest) = .char n (more.length + 1) := by
  have hvalid : n < 0xd800 ∨ 0xdfff < n ∧ n < 0x110000 := h
  by_cases h1 : n < 0x80
  · exact ⟨n, [], by simp [encodeCode, h1], by simp [front, h1]⟩
  by_cases h2 : n < 0x800
  · refine ⟨0xc0 + n / 64, [0x80 + n % 64], by simp [encodeCode, h1, h2], ?_⟩
    have hfollow : follow (0xc0 + n / 64) = some (1, 0x80, 0xbf) := by
      rw [follow, if_pos (by omega)]
    rw [List.singleton_append, front_cons hfollow (by omega) (by omega)]
    simp only [Nat.sub_self, continueFront, if_true, List.length_singleton, Front.char.injEq, and_true]
    omega
  by_cases h3 : n < 0x10000
  · refine ⟨0xe0 + n / 4096, [0x80 + n / 64 % 64, 0x80 + n % 64], by simp [encodeCode, h1, h2, h3], ?_⟩
    obtain ⟨low, high, hfollow, hbounds⟩ : ∃ low high,
        follow (0xe0 + n / 4096) = some (2, low, high) ∧
          low ≤ 0x80 + n / 64 % 64 ∧ 0x80 + n / 64 % 64 ≤ high := by
      -- After `e0` a shorter form would do for small octets, and after `ed` great ones are no characters.
      by_cases he0 : n / 4096 = 0
      · exact ⟨0xa0, 0xbf, by simp [follow, he0], by omega, by omega⟩
      by_cases hed : n / 4096 = 13
      · exact ⟨0x80, 0x9f, by simp [follow, hed], by omega, by omega⟩
      · refine ⟨0x80, 0xbf, ?_, by omega, by omega⟩
        rw [follow, if_neg (by omega), if_neg (by omega), if_neg (by omega), if_pos (by omega)]
    rw [List.cons_append, List.singleton_append, front_cons hfollow (by omega) hbounds,
      continueFront_cons (by omega) (by omega)]
    simp only [continueFront, List.length_cons, List.length_nil, Front.char.injEq, OfNat.ofNat_ne_one,
      if_false, if_true, and_true]
    omega
  · refine ⟨0xf0 + n / 262144, [0x80 + n / 4096 % 64, 0x80 + n / 64 % 64, 0x80 + n % 64],
      by simp [encodeCode, h1, h2, h3], ?_⟩
    obtain ⟨low, high, hfollow, hbounds⟩ : ∃ low high,
        follow (0xf0 + n / 262144) = some (3, low, high) ∧
          low ≤ 0x80 + n / 4096 % 64 ∧ 0x80 + n / 4096 % 64 ≤ high := by
      by_cases hf0 : n / 262144 = 0
      · exact ⟨0x90, 0xbf, by simp [follow, hf0], by omega, by omega⟩
      by_cases hf4 : n / 262144 = 4
      · exact ⟨0x80, 0x8f, by simp [follow, hf4], by omega, by omega⟩
      · refine ⟨0x80, 0xbf, ?_, by omega, by omega⟩
        rw [follow, if_neg (by omega), if_neg (by omega), if_neg (by omega), if_neg (by omega),
          if_neg (by omega), if_pos (by omega)]
    rw [List.cons_append, List.cons_append, List.singleton_append,
      front_cons hfollow (by omega) hbounds, continueFront_cons (by omega) (by omega),
      continueFront_cons (by omega) (by omega)]
    simp only [continueFront, List.length_cons, List.length_nil, Front.char.injEq, OfNat.ofNat_ne_one,
      Nat.reduceEqDiff, if_false, and_true]
    omega

theorem lossyCodes_encodeCode {n : Nat} (h : n.isValidChar) (rest : List Nat) :
    lossyCodes (encodeCode n ++ rest) = n :: lossyCodes rest := by
  obtain ⟨lead, more, hcode, hfront⟩ := front_encodeCode h rest
  rw [hcode, List.cons_append, lossyCodes, hfront]
  simp

theorem decodeCodes?_encodeCode {n : Nat} (h : n.isValidChar) (rest : List Nat) :
    decodeCodes? (encodeCode n ++ rest) = (decodeCodes? rest).map (n :: ·) := by
  obtain ⟨lead, more, hcode, hfront⟩ := front_encodeCode h rest
  rw [hcode, List.cons_append, decodeCodes?, hfront]
  simp

theorem encodeCode_lt {n b : Nat} (h : n.isValidChar) (hb : b ∈ encodeCode n) : b < 256 := by
  have hvalid : n < 0xd800 ∨ 0xdfff < n ∧ n < 0x110000 := h
  unfold encodeCode at hb
  split at hb
  · simp only [List.mem_cons, List.not_mem_nil, or_false] at hb
    omega
  · split at hb
    · simp only [List.mem_cons, List.not_mem_nil, or_false] at hb
      omega
    · split at hb
      · simp only [List.mem_cons, List.not_mem_nil, or_false] at hb
        omega
      · simp only [List.mem_cons, List.not_mem_nil, or_false] at hb
        omega

theorem isValidChar_toNat (c : Char) : c.toNat.isValidChar := c.valid

theorem toNat_encodeChar (c : Char) : (encodeChar c).map UInt8.toNat = encodeCode c.toNat := by
  rw [encodeChar, List.map_map]
  refine (List.map_congr_left fun b hb => ?_).trans (List.map_id _)
  exact UInt8.toNat_ofNat_of_lt' (encodeCode_lt (isValidChar_toNat c) hb)

theorem lossyCodes_encode (s : Text) : lossyCodes ((encode s).map UInt8.toNat) = s.map Char.toNat := by
  induction s with
  | nil => simp [encode, lossyCodes]
  | cons c s ih =>
    rw [encode, List.flatMap_cons, List.map_append, toNat_encodeChar,
      lossyCodes_encodeCode (isValidChar_toNat c)]
    exact congrArg (c.toNat :: ·) ih

theorem ofNat_toNat_map (s : Text) : (s.map Char.toNat).map Char.ofNat = s := by
  rw [List.map_map]
  exact (List.map_congr_left fun c _ => Char.ofNat_toNat c).trans (List.map_id s)

theorem decodeLossy_encode (s : Text) : decodeLossy (encode s) = s := by
  rw [decodeLossy, lossyCodes_encode, ofNat_toNat_map]

theorem decodeCodes?_encode_append (s : Text) (rest : List Nat) :
    decodeCodes? ((encode s).map UInt8.toNat ++ rest) =
      (decodeCodes? rest).map (s.map Char.toNat ++ ·) := by
  induction s with
  | nil => simp [encode]
  | cons c s ih =>
    rw [encode, List.flatMap_cons, List.map_append, List.append_assoc, toNat_encodeChar,
      decodeCodes?_encodeCode (isValidChar_toNat c), ← encode, ih, Option.map_map]
    rfl

/-- The UTF-8 form of a text is read as that text, whatever follows it. -/
theorem decode?_encode_append (s : Text) (bs : Bytes) :
    decode? (encode s ++ bs) = (decode? bs).map (s ++ ·) := by
  rw [decode?, decode?, List.map_append, decodeCodes?_encode_append, Option.map_map, Option.map_map]
  simp [Function.comp_def]

theorem decode?_encode (s : Text) : decode? (encode s) = some s := by
  have hread := decode?_encode_append s []
  simpa [decode?, decodeCodes?] using hread

theorem encodeChar_eq (c : Char) : encodeChar c = String.utf8EncodeChar c := by
  have hvalid : c.toNat < 0xd800 ∨ 0xdfff < c.toNat ∧ c.toNat < 0x110000 := isValidChar_toNat c
  have hval : c.val.toNat = c.toNat := rfl
  simp only [encodeChar, encodeCode, String.utf8EncodeChar, hval]
  generalize c.toNat = n at hvalid
  by_cases h1 : n < 0x80
  · rw [if_pos h1, if_pos (by omega)]
    rfl
  rw [if_neg h1, if_neg (show ¬n ≤ 0x7f by omega)]
  by_cases h2 : n < 0x800
  · have hlead : n / 64 % 32 + 192 = 192 + n / 64 := by omega
    rw [if_pos h2, if_pos (by omega), hlead, Nat.add_comm (n % 64)]
    rfl
  rw [if_neg h2, if_neg (show ¬n ≤ 0x7ff by omega)]
  by_cases h3 : n < 0x10000
  · have hlead : n / 4096 % 16 + 224 = 224 + n / 4096 := by omega
    rw [if_pos h3, if_pos (by omega), hlead, Nat.add_comm (n % 64), Nat.add_comm (n / 64 % 64)]
    rfl
  · have hlead : n / 262144 % 8 + 240 = 240 + n / 262144 := by omega
    rw [if_neg h3, if_neg (show ¬n ≤ 0xffff by omega), hlead, Nat.add_comm (n % 64),
      Nat.add_comm (n / 64 % 64), Nat.add_comm (n / 4096 % 64)]
    rfl

theorem encode_eq (s : Text) : encode s = s.flatMap String.utf8EncodeChar :=
  congrArg s.flatMap (funext encodeChar_eq)

end SitePreview.Utf8
