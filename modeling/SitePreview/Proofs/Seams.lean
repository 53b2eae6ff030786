import SitePreview.Proofs.Lexemes

namespace SitePreview

/-- The text breaks off within quotes. -/
def EndsInQuotes (text : Text) : Prop :=
  ∃ quote, (Scanner.feedAll {} text).mode = .quoted quote ∨ (Scanner.feedAll {} text).mode = .escaped quote

def EndsInComment (text : Text) : Prop := (Scanner.feedAll {} text).mode = .comment

namespace Scanner

def IsOutside (s : Scanner) : Prop := s.mode = .bare ∨ s.mode = .comment

/-- A scanner that had these tokens when it began, newest first. -/
def behind (done : List Token) (s : Scanner) : Scanner := { s with done := s.done ++ done }

variable {s : Scanner} {done : List Token} {c : Char}

theorem flush_behind : (s.behind done).flush = (s.flush).behind done := by
  cases hletters : s.letters <;> simp [flush, behind, hletters]

theorem feedBare_behind : (s.behind done).feedBare c = (s.feedBare c).behind done := by
  unfold feedBare
  rw [flush_behind]
  split
  · rfl
  split
  · rfl
  split
  · rfl
  split <;> rfl

/-- What a scanner does with a character does not depend on the tokens that it has. -/
theorem feed_behind : (s.behind done).feed c = (s.feed c).behind done := by
  obtain ⟨tokens, letters, quoted, mode⟩ := s
  cases mode with
  | bare => exact feedBare_behind
  | escaped quote => rfl
  | comment =>
    simp only [feed, behind]
    split <;> rfl
  | quoted quote =>
    simp only [feed, behind]
    split
    · rfl
    split <;> rfl

theorem feedAll_behind {text : Text} :
    (s.behind done).feedAll text = (s.feedAll text).behind done := by
  induction text generalizing s with
  | nil => rfl
  | cons c cs ih => rw [feedAll_cons, feed_behind, ih, feedAll_cons]

theorem finish_behind : (s.behind done).finish = done.reverse ++ s.finish := by
  have hdone (r : Scanner) : (r.behind done).flush.done.reverse = done.reverse ++ r.flush.done.reverse := by
    rw [flush_behind]
    exact List.reverse_append
  obtain ⟨tokens, letters, quoted, mode⟩ := s
  cases mode with
  | bare | quoted quote | comment => exact hdone _
  | escaped quote => exact hdone (push _ '\\')

/-- Where no word is open, the rest of a text is read as a text of its own. -/
theorem finish_feedAll_fresh (done : List Token) (text : Text) :
    (feedAll ⟨done, [], false, .bare⟩ text).finish = done.reverse ++ tokenize text := by
  have hfresh : (⟨done, [], false, .bare⟩ : Scanner) = behind done {} := rfl
  rw [hfresh, feedAll_behind, finish_behind, tokenize]

/-- Within a comment no word is open. -/
def Rests (s : Scanner) : Prop := s.mode = .comment → s.flush = s

theorem rests_of_mode_ne (h : s.mode ≠ .comment) : s.Rests := fun hcomment => absurd hcomment h

theorem rests_feedBare (hmode : s.mode = .bare) (c : Char) : (s.feedBare c).Rests := by
  have hflush : s.flush.mode = .bare := (mode_flush s).trans hmode
  unfold feedBare
  split
  · exact rests_of_mode_ne (by simp)
  split
  · -- A comment ends the word before it.
    intro _
    rw [flush_eq s]
    rfl
  split
  · exact rests_of_mode_ne (by simp [hflush])
  split
  · exact rests_of_mode_ne (by simp [hflush])
  · exact rests_of_mode_ne (by simp [push, hmode])

theorem Rests.feed (h : s.Rests) (c : Char) : (s.feed c).Rests := by
  unfold Scanner.feed
  split
  next hmode => exact rests_feedBare hmode c
  next quote hmode =>
    split
    · exact rests_of_mode_ne (by simp)
    split
    · exact rests_of_mode_ne (by simp)
    · exact rests_of_mode_ne (by simp [push, hmode])
  next => exact rests_of_mode_ne (by simp)
  next =>
    split
    · exact rests_of_mode_ne (by simp)
    · exact h

theorem Rests.feedAll (h : s.Rests) (text : Text) : (s.feedAll text).Rests := by
  induction text generalizing s with
  | nil => exact h
  | cons c cs ih => exact ih (h.feed c)

theorem Rests.eq (h : s.Rests) (hmode : s.mode = .comment) :
    s = ⟨s.flush.done, [], false, .comment⟩ := by
  rw [← hmode, ← flush_eq s]
  exact (h hmode).symm

theorem Rests.feed_lineEnd (h : s.Rests) (houtside : s.IsOutside) :
    s.feed '\n' = ⟨s.flush.done, [], false, .bare⟩ := by
  rcases houtside with hmode | hmode
  · rw [feed_blank hmode rfl, flush_eq s, hmode]
  · rw [h.eq hmode]
    rfl

/-- A comment closes a word, and within a comment it does not begin a further one. -/
theorem Rests.feedAll_comment (h : s.Rests) (houtside : s.IsOutside) {body : Text}
    (hbody : '\n' ∉ body) :
    s.feedAll (Gap.comment body hbody).written = ⟨s.flush.done, [], false, .bare⟩ := by
  rcases houtside with hmode | hmode
  · rw [feedAll_gap hmode, flush_eq s, hmode]
  · have hline : '\n' ∉ '#' :: body := by simp [hbody]
    rw [h.eq hmode, Gap.written, ← List.cons_append, feedAll_append, Scanner.feedAll_comment hline]
    rfl

theorem finish_of_outside (houtside : s.IsOutside) : s.finish = s.flush.done.reverse := by
  rcases houtside with hmode | hmode
  · exact finish_of_bare hmode
  · rw [finish, hmode]

end Scanner

theorem isOutside_of_not_endsInQuotes {a : Text} (h : ¬EndsInQuotes a) :
    (Scanner.feedAll {} a).IsOutside := by
  cases hmode : (Scanner.feedAll {} a).mode with
  | bare => exact .inl hmode
  | comment => exact .inr hmode
  | quoted quote => exact absurd ⟨quote, .inl hmode⟩ h
  | escaped quote => exact absurd ⟨quote, .inr hmode⟩ h

/-- A cut that leaves no word open adds its marks to the tokens before it, and the text behind it is read
as it is read alone. -/
theorem tokenize_parted {a cut : Text} (houtside : (Scanner.feedAll {} a).IsOutside) (marks : List Token)
    (hcut : (Scanner.feedAll {} a).feedAll cut =
      ⟨marks ++ (Scanner.feedAll {} a).flush.done, [], false, .bare⟩) (b : Text) :
    tokenize (a ++ cut ++ b) = tokenize a ++ marks.reverse ++ tokenize b := by
  rw [tokenize, Scanner.feedAll_append, Scanner.feedAll_append, hcut, Scanner.finish_feedAll_fresh,
    List.reverse_append, ← Scanner.finish_of_outside houtside, ← tokenize]

/-- Outside quotes a line end or a comment parts the tokens of a text, and outside comments too a mark
does. -/
theorem tokenize_outside_quotes {a : Text} (houtside : ¬EndsInQuotes a) (b : Text) :
    tokenize (a ++ ['\n'] ++ b) = tokenize a ++ tokenize b ∧
      (∀ c : Text, '\n' ∉ c → tokenize (a ++ ('#' :: c ++ ['\n']) ++ b) = tokenize a ++ tokenize b) ∧
      (¬EndsInComment a → ∀ mark : Token, mark.isMark = true →
        tokenize (a ++ mark.value ++ b) = tokenize a ++ [mark] ++ tokenize b) := by
  have hend := isOutside_of_not_endsInQuotes houtside
  have hrests : (Scanner.feedAll {} a).Rests :=
    Scanner.Rests.feedAll (Scanner.rests_of_mode_ne (by simp)) a
  have hgap {cut : Text}
      (hcut : (Scanner.feedAll {} a).feedAll cut = ⟨(Scanner.feedAll {} a).flush.done, [], false, .bare⟩) :
      tokenize (a ++ cut ++ b) = tokenize a ++ tokenize b := by
    have hread := tokenize_parted hend [] hcut b
    rwa [List.reverse_nil, List.append_nil] at hread
  refine ⟨?_, ?_, ?_⟩
  · have hline : (Scanner.feedAll {} a).feedAll ['\n'] = _ := hrests.feed_lineEnd hend
    exact hgap hline
  · intro c hc
    exact hgap (hrests.feedAll_comment hend hc)
  · intro hcomment mark hmark
    have hbare := hend.resolve_right hcomment
    exact tokenize_parted hend [mark] (Scanner.feedAll_markValue hbare hmark) b

/-- A word that is still open behind an empty quoted part, and a comment that is still open. -/
theorem tokenize_outside_quotes_openEnds :
    let word : Text := ['\'', '\'', ' ', 'b', '"', ' ', '"']
    let comment : Text := ['a', '"', '"', '#', ';']
    ¬EndsInQuotes word ∧ ¬EndsInComment word ∧ ¬EndsInQuotes comment ∧ '\n' ∉ ['\''] ∧
      Token.rbrace.isMark = true ∧
      tokenize (word ++ Token.rbrace.value ++ ['c']) = [.string ['b', ' '], .rbrace, .word ['c']] ∧
      tokenize (comment ++ ['\n'] ++ ['c']) = [.string ['a'], .word ['c']] ∧
      tokenize (comment ++ ('#' :: ['\''] ++ ['\n']) ++ ['c']) = [.string ['a'], .word ['c']] := by
  intro word comment
  have hword : (Scanner.feedAll {} word).mode = .bare := by decide
  have hcomment : (Scanner.feedAll {} comment).mode = .comment := by decide
  have hbody : '\n' ∉ ['\''] := by decide
  have hwordOutside : ¬EndsInQuotes word := by simp [EndsInQuotes, hword]
  have hcommentOutside : ¬EndsInQuotes comment := by simp [EndsInQuotes, hcomment]
  have hwordEnd : ¬EndsInComment word := by simp [EndsInComment, hword]
  obtain ⟨_, _, hmark⟩ := tokenize_outside_quotes hwordOutside ['c']
  obtain ⟨hline, hbetween, _⟩ := tokenize_outside_quotes hcommentOutside ['c']
  exact ⟨hwordOutside, hwordEnd, hcommentOutside, hbody, rfl, hmark hwordEnd .rbrace rfl, hline,
    hbetween ['\''] hbody⟩

end SitePreview
