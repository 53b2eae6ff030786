import SitePreview.Conf.Lexeme
import SitePreview.Conf.Scanner

namespace SitePreview

theorem isBare_iff {c : Char} : IsBare c ↔
    isBlank c = false ∧ Scanner.isQuote c = false ∧ c ≠ '#' ∧ Token.mark? c = none := by
  rw [Token.mark?_eq_none_iff]
  simp [IsBare, Scanner.isQuote, and_assoc]

namespace Scanner

variable {s : Scanner} {done : List Token} {letters : Text} {quoted : Bool}

theorem feedAll_cons (s : Scanner) (c : Char) (cs : Text) :
    s.feedAll (c :: cs) = (s.feed c).feedAll cs := rfl

theorem feed_bare {c : Char} (hc : IsBare c) :
    feed ⟨done, letters, quoted, .bare⟩ c = ⟨done, c :: letters, quoted, .bare⟩ := by
  obtain ⟨hblank, hquote, hhash, hmark⟩ := isBare_iff.mp hc
  simp [feed, feedBare, hblank, hquote, hhash, hmark, push]

theorem feedAll_bare {run : Text} (h : ∀ c ∈ run, IsBare c) :
    feedAll ⟨done, letters, quoted, .bare⟩ run = ⟨done, run.reverse ++ letters, quoted, .bare⟩ := by
  induction run generalizing letters with
  | nil => rfl
  | cons c cs ih =>
    obtain ⟨hc, hcs⟩ := List.forall_mem_cons.mp h
    rw [feedAll_cons, feed_bare hc, ih hcs, List.reverse_cons, List.append_assoc]
    rfl

theorem feedAll_quotedChar {quote : Char} (hquote : quote ≠ '\\') (c : QuotedChar quote) :
    feedAll ⟨done, letters, quoted, .quoted quote⟩ c.written =
      ⟨done, c.char :: letters, quoted, .quoted quote⟩ := by
  cases c with
  | plain c standing =>
    simp [QuotedChar.written, QuotedChar.char, feedAll, feed, push, standing.1, standing.2]
  | escaped c =>
    simp [QuotedChar.written, QuotedChar.char, feedAll, feed, push, Ne.symm hquote]

theorem feedAll_quoted {quote : Char} (hquote : quote ≠ '\\') (content : List (QuotedChar quote)) :
    feedAll ⟨done, letters, quoted, .quoted quote⟩ (content.flatMap QuotedChar.written) =
      ⟨done, (content.map QuotedChar.char).reverse ++ letters, quoted, .quoted quote⟩ := by
  induction content generalizing letters with
  | nil => rfl
  | cons c cs ih =>
    rw [List.flatMap_cons, feedAll_append, feedAll_quotedChar hquote, ih, List.map_cons,
      List.reverse_cons, List.append_assoc]
    rfl

theorem feedAll_piece (piece : Piece) :
    feedAll ⟨done, letters, quoted, .bare⟩ piece.written =
      ⟨done, piece.value.reverse ++ letters, quoted || piece.isQuoted, .bare⟩ := by
  cases piece with
  | bare run standing =>
    rw [Piece.written, feedAll_bare standing, Piece.value, Piece.isQuoted, Bool.or_false]
  | quoted quote isQuote content =>
    have hopen : Scanner.isQuote quote = true := by
      rcases isQuote with rfl | rfl <;> decide
    have hquote : quote ≠ '\\' := by
      rintro rfl
      simp at isQuote
    have hfirst : feed ⟨done, letters, quoted, .bare⟩ quote =
        ⟨done, letters, true, .quoted quote⟩ := by simp [feed, feedBare, hopen]
    rw [Piece.written, feedAll_cons, hfirst, feedAll_append, feedAll_quoted hquote]
    simp [feedAll, feed, Piece.value, Piece.isQuoted]

theorem feedAll_word (pieces : List Piece) :
    feedAll ⟨done, letters, quoted, .bare⟩ (pieces.flatMap Piece.written) =
      ⟨done, (pieces.flatMap Piece.value).reverse ++ letters, quoted || pieces.any Piece.isQuoted,
        .bare⟩ := by
  induction pieces generalizing letters quoted with
  | nil => simp [feedAll]
  | cons piece pieces ih =>
    rw [List.flatMap_cons, feedAll_append, feedAll_piece, ih, List.flatMap_cons, List.reverse_append,
      List.append_assoc, List.any_cons, Bool.or_assoc]

theorem flush_eq (s : Scanner) : s.flush = ⟨s.flush.done, [], false, s.mode⟩ := by
  unfold flush
  split
  next h => rw [h]
  next => rfl

theorem feed_blank {c : Char} (hmode : s.mode = .bare) (hc : isBlank c = true) :
    s.feed c = s.flush := by
  have hquote : isQuote c = false := by
    cases hq : isQuote c with
    | false => rfl
    | true =>
      simp only [isQuote, Bool.or_eq_true, beq_iff_eq] at hq
      rcases hq with rfl | rfl <;> revert hc <;> decide
  have hhash : c ≠ '#' := by
    rintro rfl
    revert hc
    decide
  simp [feed, hmode, feedBare, hquote, hhash, hc]

theorem feedAll_comment {body : Text} (h : '\n' ∉ body) :
    feedAll ⟨done, letters, quoted, .comment⟩ body = ⟨done, letters, quoted, .comment⟩ := by
  induction body with
  | nil => rfl
  | cons c cs ih =>
    obtain ⟨hc, hcs⟩ := List.ne_and_not_mem_of_not_mem_cons h
    rw [feedAll_cons, show feed ⟨done, letters, quoted, .comment⟩ c =
      ⟨done, letters, quoted, .comment⟩ by simp [feed, Ne.symm hc], ih hcs]

theorem feedAll_gap (hmode : s.mode = .bare) (gap : Gap) : s.feedAll gap.written = s.flush := by
  cases gap with
  | blank c isBlank => exact feed_blank hmode isBlank
  | comment body oneLine =>
    have hopen : s.feed '#' = ⟨s.flush.done, [], false, .comment⟩ := by
      rw [feed, hmode, feedBare, flush_eq s]
      rfl
    rw [Gap.written, feedAll_cons, hopen, feedAll_append, feedAll_comment oneLine, flush_eq s, hmode]
    rfl

theorem flush_flush (s : Scanner) : s.flush.flush = s.flush := by
  rw [flush_eq s]
  rfl

theorem mode_flush (s : Scanner) : s.flush.mode = s.mode := by rw [flush_eq s]

theorem feedAll_gaps (hmode : s.mode = .bare) (gaps : List Gap) :
    s.feedAll (gaps.flatMap Gap.written) = if gaps = [] then s else s.flush := by
  induction gaps generalizing s with
  | nil => rfl
  | cons gap gaps ih =>
    rw [List.flatMap_cons, feedAll_append, feedAll_gap hmode, ih (by rw [mode_flush, hmode]), flush_flush]
    simp

theorem feed_mark {t : Token} {c : Char} (hmode : s.mode = .bare) (h : Token.mark? c = some t) :
    s.feed c = ⟨t :: s.flush.done, [], false, .bare⟩ := by
  have hc : c = '{' ∨ c = '}' ∨ c = ';' := by
    unfold Token.mark? at h
    split at h <;> simp_all
  rw [feed, hmode, feedBare, h, flush_eq s, hmode]
  rcases hc with rfl | rfl | rfl <;> rfl

theorem feedAll_markValue {t : Token} (hmode : s.mode = .bare) (ht : t.isMark = true) :
    s.feedAll t.value = ⟨t :: s.flush.done, [], false, .bare⟩ := by
  cases t with
  | word v | string v => simp [Token.isMark, Token.part?] at ht
  | lbrace | rbrace | semicolon => exact feed_mark hmode rfl

theorem flush_feedAll_word {pieces : List Piece} (filled : pieces ≠ []) :
    (feedAll ⟨done, [], false, .bare⟩ (pieces.flatMap Piece.written)).flush =
      ⟨(Lexeme.word pieces filled).token?.toList ++ done, [], false, .bare⟩ := by
  rw [feedAll_word, List.append_nil, Bool.false_or, Lexeme.token?]
  cases hvalue : pieces.flatMap Piece.value with
  | nil => rfl
  | cons c cs =>
    have hletters : (c :: cs).reverse ≠ [] := by simp
    obtain ⟨l, ls, hls⟩ := List.exists_cons_of_ne_nil hletters
    simp only [flush, hls]
    rw [← hls, List.reverse_reverse]
    rfl

theorem flush_feedAll_lexeme (lexeme : Lexeme) (hmode : s.mode = .bare)
    (hrest : lexeme.isWord = true → s.flush = s) :
    (s.feedAll lexeme.written).flush = ⟨lexeme.token?.toList ++ s.flush.done, [], false, .bare⟩ := by
  cases lexeme with
  | mark t isMark =>
    rw [Lexeme.written, feedAll_markValue hmode isMark]
    rfl
  | word pieces filled =>
    have hself : s = ⟨s.flush.done, [], false, .bare⟩ := by
      rw [← hmode, ← flush_eq s]
      exact (hrest rfl).symm
    rw [hself]
    exact flush_feedAll_word filled

/-- What a lexeme and its gaps add to the tokens, once the last word has ended. -/
theorem flush_feedAll_item (lexeme : Lexeme) (gaps : List Gap) (hmode : s.mode = .bare)
    (hrest : lexeme.isWord = true → s.flush = s) :
    (s.feedAll (lexeme.written ++ gaps.flatMap Gap.written)).flush =
      ⟨lexeme.token?.toList ++ s.flush.done, [], false, .bare⟩ := by
  have hread := flush_feedAll_lexeme lexeme hmode hrest
  have hread_mode : (s.feedAll lexeme.written).mode = .bare := by rw [← mode_flush, hread]
  rw [feedAll_append, feedAll_gaps hread_mode]
  split
  · exact hread
  · rw [flush_flush, hread]

theorem feedAll_item_rests (lexeme : Lexeme) {gaps : List Gap} (hmode : s.mode = .bare)
    (hrest : lexeme.isWord = true → s.flush = s) (hgaps : lexeme.isWord = true → gaps ≠ []) :
    (s.feedAll (lexeme.written ++ gaps.flatMap Gap.written)).flush =
      s.feedAll (lexeme.written ++ gaps.flatMap Gap.written) := by
  have hread := flush_feedAll_lexeme lexeme hmode hrest
  have hread_mode : (s.feedAll lexeme.written).mode = .bare := by rw [← mode_flush, hread]
  rw [feedAll_append, feedAll_gaps hread_mode]
  split
  next hempty =>
    cases lexeme with
    | word pieces filled => exact absurd hempty (hgaps rfl)
    | mark t isMark =>
      rw [Lexeme.written, feedAll_markValue hmode isMark]
      rfl
  next => exact flush_flush _

/-- The words and marks of a text join the tokens, the last of them when it ends. A word may only come
when the word before it has ended. -/
theorem flush_feedAll_written {items : Lexemes} (hitems : items.Apart) (hmode : s.mode = .bare)
    (hrest : ∀ item ∈ items.head?, item.1.isWord = true → s.flush = s) :
    (s.feedAll items.written).flush = ⟨items.tokens.reverse ++ s.flush.done, [], false, .bare⟩ := by
  induction items generalizing s with
  | nil =>
    rw [← hmode]
    exact flush_eq s
  | cons item items ih =>
    obtain ⟨lexeme, gaps⟩ := item
    have hitem := flush_feedAll_item lexeme gaps hmode (hrest _ rfl)
    have hitem_mode : (s.feedAll (lexeme.written ++ gaps.flatMap Gap.written)).mode = .bare := by
      rw [← mode_flush, hitem]
    have hnext : ∀ next ∈ items.head?, next.1.isWord = true →
        (s.feedAll (lexeme.written ++ gaps.flatMap Gap.written)).flush =
          s.feedAll (lexeme.written ++ gaps.flatMap Gap.written) := by
      intro next hnext hword
      obtain ⟨rest, rfl⟩ := List.head?_eq_some_iff.mp hnext
      refine feedAll_item_rests lexeme hmode (hrest _ rfl) ?_
      exact fun hlexeme => (List.isChain_cons_cons.mp hitems).1 hlexeme hword
    have htokens : Lexemes.tokens ((lexeme, gaps) :: items) =
        lexeme.token?.toList ++ Lexemes.tokens items := by
      rw [Lexemes.tokens, List.filterMap_cons]
      cases lexeme.token? <;> rfl
    rw [Lexemes.written, List.flatMap_cons, feedAll_append, ← Lexemes.written,
      ih hitems.tail hitem_mode hnext, hitem, htokens, List.reverse_append, List.append_assoc]
    cases lexeme.token? <;> rfl

theorem finish_of_bare (hmode : s.mode = .bare) : s.finish = s.flush.done.reverse := by
  rw [finish, hmode]

end Scanner

theorem tokenize_written (lead : List Gap) {items : Lexemes} (hitems : items.Apart) :
    tokenize (lead.flatMap Gap.written ++ items.written) = items.tokens := by
  have hlead : Scanner.feedAll {} (lead.flatMap Gap.written) = {} := by
    rw [Scanner.feedAll_gaps rfl]
    split <;> rfl
  have hread := Scanner.flush_feedAll_written (s := {}) hitems rfl fun _ _ _ => rfl
  have hmode : (Scanner.feedAll {} items.written).mode = .bare := by rw [← Scanner.mode_flush, hread]
  rw [tokenize, Scanner.feedAll_append, hlead, Scanner.finish_of_bare hmode, hread]
  simp [Scanner.flush]

namespace Lexemes

/-- Lexemes with one blank between neighbours. -/
def spaced : List Lexeme → Lexemes
  | [] => []
  | [lexeme] => [(lexeme, [])]
  | lexeme :: next :: rest => (lexeme, [.blank ' ' rfl]) :: spaced (next :: rest)

theorem written_spaced (lexemes : List Lexeme) :
    (spaced lexemes).written = [' '].intercalate (lexemes.map Lexeme.written) := by
  induction lexemes using spaced.induct with
  | case1 => rfl
  | case2 lexeme => simp [spaced, written]
  | case3 lexeme next rest ih =>
    rw [spaced, written, List.flatMap_cons, ← written, ih]
    simp [Gap.written]

theorem tokens_spaced (lexemes : List Lexeme) :
    (spaced lexemes).tokens = lexemes.filterMap Lexeme.token? := by
  induction lexemes using spaced.induct with
  | case1 => rfl
  | case2 lexeme => rfl
  | case3 lexeme next rest ih =>
    rw [spaced, tokens, List.filterMap_cons, ← tokens, ih]
    rfl

theorem spaced_apart (lexemes : List Lexeme) : (spaced lexemes).Apart := by
  induction lexemes using spaced.induct with
  | case1 => exact .nil
  | case2 lexeme => exact .singleton _
  | case3 lexeme next rest ih =>
    cases rest with
    | nil => exact .cons_cons (by simp) ih
    | cons _ _ => exact .cons_cons (by simp) ih

end Lexemes

namespace Lexeme

variable {quote : Char} (isQuote : quote = '\'' ∨ quote = '"')

def string (value : Text) : Lexeme :=
  .word [.quoted quote isQuote (value.map (QuotedChar.of quote))] (List.cons_ne_nil _ _)

theorem written_string (value : Text) : (string isQuote value).written = enquote quote value := by
  have hchar : ∀ c, (QuotedChar.of quote c).written =
      if c = quote ∨ c = '\\' then ['\\', c] else [c] := by
    intro c
    unfold QuotedChar.of
    split
    next h => rw [if_neg (by tauto)]; rfl
    next h => rw [if_pos (by tauto)]; rfl
  simp [string, written, Piece.written, enquote, List.flatMap_map, hchar]

theorem token?_string {value : Text} (h : value ≠ []) :
    (string isQuote value).token? = some (.string value) := by
  have hchar : ∀ c, (QuotedChar.of quote c).char = c := by
    intro c
    unfold QuotedChar.of
    split <;> rfl
  have hvalue : (value.map (QuotedChar.of quote)).map QuotedChar.char = value := by
    simp [Function.comp_def, hchar]
  obtain ⟨c, cs, rfl⟩ := List.exists_cons_of_ne_nil h
  simp [string, token?, Piece.value, Piece.isQuoted, hchar, Function.comp_def]

end Lexeme

/-- The tokens of a text are those of its lexemes, and texts in quotes are read back. -/
theorem tokenize_lexemes :
    (∀ (lead : List Gap) (items : Lexemes), items.Apart →
      tokenize (lead.flatMap Gap.written ++ items.written) = items.tokens) ∧
    ∀ (quote : Char) (values : List Text), quote = '\'' ∨ quote = '"' → (∀ v ∈ values, v ≠ []) →
      tokenize ([' '].intercalate (values.map (enquote quote))) = values.map .string := by
  refine ⟨fun lead _ hitems => tokenize_written lead hitems, ?_⟩
  intro quote values isQuote hfilled
  have hread := tokenize_written [] (Lexemes.spaced_apart (values.map (Lexeme.string isQuote)))
  rw [Lexemes.written_spaced, Lexemes.tokens_spaced] at hread
  have hwritten : (values.map (Lexeme.string isQuote)).map Lexeme.written =
      values.map (enquote quote) := by simp [Function.comp_def, Lexeme.written_string]
  have htokens : (values.map (Lexeme.string isQuote)).filterMap Lexeme.token? =
      values.map .string := by
    rw [List.filterMap_map, ← List.filterMap_eq_map]
    exact List.filterMap_congr fun v hv => Lexeme.token?_string isQuote (hfilled v hv)
  rw [hwritten, htokens] at hread
  exact hread

/-- A word before a comment, an empty word, and a word with a quoted part. -/
def rootLexemes : Lexemes :=
  [(.word [.bare ['r'] (List.forall_mem_singleton.mpr (by decide))] (by simp),
      [.comment ['{'] (by decide), .blank ' ' rfl]),
    (.word [.quoted '\'' (.inl rfl) []] (by simp), [.blank '\n' rfl]),
    (.word [.bare ['a'] (List.forall_mem_singleton.mpr (by decide)),
      .quoted '"' (.inr rfl) [.escaped '"', .plain ';' (by decide)]] (by simp), []),
    (.mark .semicolon rfl, [])]

theorem tokenize_lexemes_root :
    rootLexemes.Apart ∧
      tokenize ([' '] ++ rootLexemes.written) =
        [.word ['r'], .string ['a', '"', ';'], .semicolon] ∧
      tokenize ([' '].intercalate ([['\\'], ['\'', ' ']].map (enquote '\''))) =
        [.string ['\\'], .string ['\'', ' ']] := by
  have hapart : rootLexemes.Apart := by simp [rootLexemes, Lexemes.Apart, Lexeme.isWord]
  obtain ⟨hread, hquoted⟩ := tokenize_lexemes
  have hroot := hread [.blank ' ' rfl] rootLexemes hapart
  exact ⟨hapart, hroot, hquoted '\'' [['\\'], ['\'', ' ']] (.inl rfl) (by decide)⟩

end SitePreview
