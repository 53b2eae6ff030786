import SitePreview.Text.Basic

namespace SitePreview.Latin

def decode (bs : Bytes) : Text := bs.map fun b => Char.ofNat b.toNat

def encode (s : Text) : Bytes := s.map fun c => UInt8.ofNat c.toNat

theorem decode_append (bs cs : Bytes) : decode (bs ++ cs) = decode bs ++ decode cs := List.map_append

theorem encode_append (s t : Text) : encode (s ++ t) = encode s ++ encode t := List.map_append

theorem decode_encode {s : Text} (h : ∀ c ∈ s, c.toNat < 256) : decode (encode s) = s := by
  induction s with
  | nil => rfl
  | cons c s ih =>
    have hc : (UInt8.ofNat c.toNat).toNat = c.toNat :=
      UInt8.toNat_ofNat_of_lt' (h c List.mem_cons_self)
    have hs := ih fun d hd => h d (List.mem_cons_of_mem c hd)
    simp only [encode, decode, List.map_cons, hc, Char.ofNat_toNat] at hs ⊢
    rw [hs]

theorem toNat_lt_of_mem_decode {bs : Bytes} {c : Char} (h : c ∈ decode bs) : c.toNat < 256 := by
  obtain ⟨b, -, rfl⟩ := List.mem_map.mp h
  have hb : b.toNat < 256 := b.toNat_lt
  have hvalid : b.toNat.isValidChar := Or.inl (Nat.lt_trans hb (by decide))
  rw [Char.ofNat, dif_pos hvalid]
  exact hb

end SitePreview.Latin
