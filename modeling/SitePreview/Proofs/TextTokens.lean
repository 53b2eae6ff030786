import SitePreview.Proofs.Seams

namespace SitePreview

namespace Scanner

def AllFilled (s : Scanner) : Prop := ∀ t ∈ s.done, t.value ≠ []

theorem AllFilled.flush {s : Scanner} (h : s.AllFilled) : s.flush.AllFilled := by
  unfold Scanner.flush
  split
  · exact h
  · rename_i hcs
    intro t ht
    rcases List.mem_cons.mp ht with rfl | ht
    · split <;> simp_all [Token.value]
    · exact h t ht

theorem AllFilled.push {s : Scanner} (h : s.AllFilled) (c : Char) : (s.push c).AllFilled := h

theorem AllFilled.feedBare {s : Scanner} (h : s.AllFilled) (c : Char) :
    (s.feedBare c).AllFilled := by
  unfold Scanner.feedBare
  split
  · exact h
  split
  · exact h.flush
  split
  · exact h.flush
  split
  · rename_i mark hm
    intro t ht
    rcases List.mem_cons.mp ht with rfl | ht
    · rw [Token.value_of_mark? hm]
      exact List.cons_ne_nil _ _
    · exact h.flush t ht
  · exact h

theorem AllFilled.feed {s : Scanner} (h : s.AllFilled) (c : Char) : (s.feed c).AllFilled := by
  unfold Scanner.feed
  split
  · exact h.feedBare c
  · split
    · exact h
    · split <;> exact h
  · exact h
  · split <;> exact h

theorem AllFilled.feedAll {s : Scanner} (h : s.AllFilled) (text : Text) :
    (s.feedAll text).AllFilled := by
  induction text generalizing s with
  | nil => exact h
  | cons c cs ih => exact ih (h.feed c)

theorem AllFilled.finish {s : Scanner} (h : s.AllFilled) : ∀ t ∈ s.finish, t.value ≠ [] := by
  unfold Scanner.finish
  split
  · exact fun t ht => (h.push '\\').flush t (List.mem_reverse.mp ht)
  · exact fun t ht => h.flush t (List.mem_reverse.mp ht)

end Scanner

theorem value_ne_nil_of_mem_tokenize {text : Text} {t : Token} (h : t ∈ tokenize text) :
    t.value ≠ [] :=
  Scanner.AllFilled.finish
    (Scanner.AllFilled.feedAll (s := {}) (by simp [Scanner.AllFilled]) text) t h

/-- A word has only characters that stand for themselves, and a mark is a character of the text. -/
def Token.IsReadIn (text : Text) (t : Token) : Prop :=
  (∀ v, t = .word v → ∀ c ∈ v, IsBare c) ∧
    (t.isMark = true → ∃ c ∈ text, Token.mark? c = some t)

theorem Token.isReadIn_of_mark? {text : Text} {c : Char} {t : Token} (hc : c ∈ text)
    (h : Token.mark? c = some t) : t.IsReadIn text := by
  refine ⟨?_, fun _ => ⟨c, hc, h⟩⟩
  rintro v rfl
  cases Token.isMark_of_mark? h

theorem Token.isReadIn_word {text value : Text} (h : ∀ c ∈ value, IsBare c) :
    (Token.word value).IsReadIn text := by
  refine ⟨?_, by simp [isMark, part?]⟩
  rintro v ⟨⟩
  exact h

theorem Token.isReadIn_string (text value : Text) : (Token.string value).IsReadIn text := by
  simp [IsReadIn, isMark, part?]

namespace Scanner

/-- What a scanner has made of characters of a text. The open word is to be a word, and not a string, only
outside quotes. -/
structure HasRead (text : Text) (s : Scanner) : Prop where
  done : ∀ t ∈ s.done, t.IsReadIn text
  letters : s.quoted = false → ∀ c ∈ s.letters, IsBare c
  outside : s.quoted = false → s.IsOutside

variable {text : Text} {s : Scanner} {c : Char}

theorem HasRead.flush_done (h : s.HasRead text) : ∀ t ∈ s.flush.done, t.IsReadIn text := by
  unfold flush
  split
  · exact h.done
  · intro t ht
    rcases List.mem_cons.mp ht with rfl | ht
    · cases hquoted : s.quoted with
      | true => exact Token.isReadIn_string text _
      | false => exact Token.isReadIn_word fun c hc => h.letters hquoted c (List.mem_reverse.mp hc)
    · exact h.done t ht

theorem HasRead.flush (h : s.HasRead text) (hmode : s.mode = .bare) : s.flush.HasRead text := by
  have hdone := h.flush_done
  rw [flush_eq s] at hdone ⊢
  exact ⟨hdone, fun _ => List.forall_mem_nil _, fun _ => .inl hmode⟩

theorem HasRead.feedBare (h : s.HasRead text) (hmode : s.mode = .bare) (hc : c ∈ text) :
    (s.feedBare c).HasRead text := by
  have hflush := h.flush hmode
  unfold Scanner.feedBare
  split
  next => refine ⟨h.done, ?_, ?_⟩ <;> simp
  next hquote =>
    split
    next => exact ⟨hflush.done, hflush.letters, fun _ => .inr rfl⟩
    next hhash =>
      split
      next => exact hflush
      next hblank =>
        split
        next mark hmark =>
          refine ⟨?_, hflush.letters, hflush.outside⟩
          exact List.forall_mem_cons.mpr ⟨Token.isReadIn_of_mark? hc hmark, hflush.done⟩
        next hmark =>
          have hbare : IsBare c :=
            isBare_iff.mpr ⟨by simpa using hblank, by simpa using hquote, hhash, hmark⟩
          exact ⟨h.done, fun hquoted => List.forall_mem_cons.mpr ⟨hbare, h.letters hquoted⟩, h.outside⟩

theorem HasRead.within (h : s.HasRead text) (hmode : ¬s.IsOutside) (letters : Text) (mode : ScanMode) :
    HasRead text { s with letters, mode } := by
  have hquoted : s.quoted = true := by
    cases hquoted : s.quoted with
    | true => rfl
    | false => exact absurd (h.outside hquoted) hmode
  refine ⟨h.done, ?_, ?_⟩ <;> simp [hquoted]

theorem HasRead.feed (h : s.HasRead text) (hc : c ∈ text) : (s.feed c).HasRead text := by
  unfold Scanner.feed
  split
  next hmode => exact h.feedBare hmode hc
  next quote hmode =>
    have hinside : ¬s.IsOutside := by simp [IsOutside, hmode]
    split
    · exact h.within hinside _ _
    split
    · exact h.within hinside _ _
    · exact h.within hinside _ _
  next quote hmode => exact h.within (by simp [IsOutside, hmode]) _ _
  next =>
    split
    · exact ⟨h.done, h.letters, fun _ => .inl rfl⟩
    · exact h

theorem HasRead.feedAll (h : s.HasRead text) {read : Text} (hread : read ⊆ text) :
    (s.feedAll read).HasRead text := by
  induction read generalizing s with
  | nil => exact h
  | cons c cs ih =>
    obtain ⟨hc, hcs⟩ := List.cons_subset.mp hread
    exact ih (h.feed hc) hcs

theorem HasRead.finish (h : s.HasRead text) : ∀ t ∈ s.finish, t.IsReadIn text := by
  unfold Scanner.finish
  split
  next quote hmode =>
    -- A last backslash joins a word in quotes.
    have hpush : (s.push '\\').HasRead text := h.within (by simp [IsOutside, hmode]) _ _
    exact fun t ht => hpush.flush_done t (List.mem_reverse.mp ht)
  next => exact fun t ht => h.flush_done t (List.mem_reverse.mp ht)

end Scanner

theorem isReadIn_of_mem_tokenize {text : Text} : ∀ t ∈ tokenize text, t.IsReadIn text := by
  have hfresh : Scanner.HasRead text {} :=
    ⟨List.forall_mem_nil _, fun _ => List.forall_mem_nil _, fun _ => .inl rfl⟩
  exact (hfresh.feedAll (List.Subset.refl text)).finish

end SitePreview
