import SitePreview.Proofs.Derivations
import SitePreview.Proofs.TextTokens

namespace SitePreview

theorem not_groupsNamed_iff {ts : List Token} : ¬GroupsNamed ts ↔ ∃ before first group mark after,
    ts = before ++ first :: (group ++ mark :: after) ∧
      (∀ t ∈ before.getLast?, t.isMark = true) ∧ (∀ t ∈ first :: group, t.isMark = false) ∧
      mark.isMark = true ∧ first.value = [] := by
  constructor
  · intro hnameless
    by_contra hnone
    refine hnameless fun before first group mark after hts hbefore hgroup hmark hfirst => ?_
    exact hnone ⟨before, first, group, mark, after, hts, hbefore, hgroup, hmark, hfirst⟩
  · rintro ⟨before, first, group, mark, after, hts, hbefore, hgroup, hmark, hfirst⟩ hnamed
    exact hnamed before first group mark after hts hbefore hgroup hmark hfirst

theorem parseText_cases (room : Nat) (text : Text) :
    (blockDepth (tokenize text) ≤ room → ∃ r, parseText room text = .ok r) ∧
      (room < blockDepth (tokenize text) → parseText room text = .error .tooDeep) := by
  have hnamed : GroupsNamed (tokenize text) :=
    groupsNamed_of_filled fun t ht => value_ne_nil_of_mem_tokenize ht
  exact ⟨fun hdepth => exists_parseTokens_iff.mpr ⟨hnamed, hdepth⟩, parseTokens_of_tooDeep hnamed⟩

/-- Where there is room for the blocks, a parse fails just if a run of words and strings, from a mark or the
start up to a mark, begins with an empty value; where there is none it fails anyway. The tokens of a text are
not empty, its marks stand in it, and its words have neither blanks nor quotes, comment signs or marks in
them; so a text is parsed just if there is room for its blocks. -/
theorem parseTokens_fails_iff (room : Nat) :
    (∀ ts, blockDepth ts ≤ room → parseTokens room ts ≠ .error .tooDeep ∧
      (parseTokens room ts = .error .emptyName ↔ ∃ before first group mark after,
        ts = before ++ first :: (group ++ mark :: after) ∧
          (∀ t ∈ before.getLast?, t.isMark = true) ∧ (∀ t ∈ first :: group, t.isMark = false) ∧
          mark.isMark = true ∧ first.value = [])) ∧
    (∀ ts, room < blockDepth ts → ∃ e, parseTokens room ts = .error e) ∧
    ∀ text,
      (∀ t ∈ tokenize text, t.value ≠ []) ∧
      (∀ t ∈ tokenize text, t.isMark = true →
        ∃ c ∈ text, Token.mark? c = some t ∧ t.value = [c]) ∧
      (∀ v, .word v ∈ tokenize text →
        ∀ c ∈ v, isBlank c = false ∧ c ∉ ['\'', '"', '#', '{', '}', ';']) ∧
      (blockDepth (tokenize text) ≤ room → ∃ r, parseText room text = .ok r) ∧
      (room < blockDepth (tokenize text) → parseText room text = .error .tooDeep) := by
  refine ⟨?_, fun ts => exists_error_of_tooDeep, ?_⟩
  · intro ts hdepth
    refine ⟨fun hdeep => ?_, (parseTokens_eq_emptyName hdepth).trans not_groupsNamed_iff⟩
    exact absurd (lt_blockDepth_of_tooDeep hdeep) (Nat.not_lt.mpr hdepth)
  · intro text
    refine ⟨fun t ht => value_ne_nil_of_mem_tokenize ht, ?_, ?_, parseText_cases room text⟩
    · intro t ht hmark
      obtain ⟨c, hc, hread⟩ := (isReadIn_of_mem_tokenize t ht).2 hmark
      exact ⟨c, hc, hread, Token.value_of_mark? hread⟩
    · intro v hv
      exact (isReadIn_of_mem_tokenize _ hv).1 v rfl

/-- Empty values that do no harm, as an argument and after the last mark, and one that would name a directive
within a block. -/
def namelessTokens : List Token :=
  [.word ['a'], .word [], .lbrace, .string [], .word ['b'], .rbrace, .word []]

/-- A word with a backslash, an empty string, a mark in a comment, and a string that the text breaks off. -/
def brokenOffText : Text :=
  ['a', '\\', ' ', '\'', '\'', '{', 'b', ';', '#', '{', '\n', '"', '}', '\\']

theorem parseTokens_fails_iff_nameless :
    (blockDepth namelessTokens ≤ 1 ∧ parseTokens 1 namelessTokens ≠ .error .tooDeep ∧
        parseTokens 1 namelessTokens = .error .emptyName) ∧
      (0 < blockDepth namelessTokens ∧ ∃ e, parseTokens 0 namelessTokens = .error e) ∧
      tokenize brokenOffText = [.word ['a', '\\'], .lbrace, .word ['b'], .semicolon, .string ['}', '\\']] ∧
      (Token.string ['}', '\\']).value ≠ [] ∧
      (∃ c ∈ brokenOffText, Token.mark? c = some .semicolon ∧ Token.semicolon.value = [c]) ∧
      (isBlank '\\' = false ∧ '\\' ∉ ['\'', '"', '#', '{', '}', ';']) ∧
      (∃ r, parseText 1 brokenOffText = .ok r) ∧ parseText 0 brokenOffText = .error .tooDeep := by
  obtain ⟨hfails, -, hread⟩ := parseTokens_fails_iff 1
  obtain ⟨-, hfailsAnyway, hreadWithout⟩ := parseTokens_fails_iff 0
  obtain ⟨hfilled, hmarks, hwords, hparsed, -⟩ := hread brokenOffText
  obtain ⟨-, -, -, -, hdeep⟩ := hreadWithout brokenOffText
  have htokens : tokenize brokenOffText =
      [.word ['a', '\\'], .lbrace, .word ['b'], .semicolon, .string ['}', '\\']] := rfl
  have hdepth : blockDepth (tokenize brokenOffText) = 1 := rfl
  obtain ⟨hfits, hnameless⟩ := hfails namelessTokens (Nat.le_refl 1)
  refine ⟨⟨Nat.le_refl 1, hfits, ?_⟩, ⟨Nat.one_pos, hfailsAnyway _ Nat.one_pos⟩, htokens,
    hfilled _ (by simp [htokens]), hmarks .semicolon (by simp [htokens]) rfl,
    hwords ['a', '\\'] (by simp [htokens]) '\\' (by simp),
    hparsed (Nat.le_of_eq hdepth), hdeep (Nat.lt_of_lt_of_eq Nat.one_pos hdepth.symm)⟩
  exact hnameless.mpr ⟨[.word ['a'], .word [], .lbrace], .string [], [.word ['b']], .rbrace, [.word []],
    rfl, by decide, by decide, rfl, rfl⟩

theorem Node.tokensOf_append (spell : Text → Token) (nodes more : List Node) :
    tokensOf spell (nodes ++ more) = tokensOf spell nodes ++ tokensOf spell more := by
  induction nodes with
  | nil => rfl
  | cons node nodes ih => rw [List.cons_append, tokensOf, tokensOf, ih, List.append_assoc]

def nestedText : Nat → Text
  | 0 => []
  | n + 1 => 'a' :: '{' :: (nestedText n ++ ['}'])

theorem Scanner.feedAll_nestedText (n : Nat) (done : List Token) :
    feedAll ⟨done, [], false, .bare⟩ (nestedText n) =
      ⟨(Node.tokensOf .word (nestedBlocks n)).reverse ++ done, [], false, .bare⟩ := by
  induction n generalizing done with
  | zero => rfl
  | succ n ih =>
    have hopen : feed (feed ⟨done, [], false, .bare⟩ 'a') '{' =
        ⟨.lbrace :: .word ['a'] :: done, [], false, .bare⟩ := rfl
    have hclose (tokens : List Token) : feed ⟨tokens, [], false, .bare⟩ '}' =
        ⟨.rbrace :: tokens, [], false, .bare⟩ := rfl
    have htokens : Node.tokensOf .word (nestedBlocks (n + 1)) =
        .word ['a'] :: .lbrace :: (Node.tokensOf .word (nestedBlocks n) ++ [.rbrace]) := by
      simp [nestedBlocks, Node.tokensOf, Node.tokens]
    rw [nestedText, feedAll_cons, feedAll_cons, hopen, feedAll_append, ih, feedAll_cons, hclose, htokens]
    simp [feedAll]

theorem tokenize_nestedText (n : Nat) :
    tokenize (nestedText n ++ " b c;".toList) = Node.tokensOf .word (nestedNodes n) := by
  have hfresh := Scanner.finish_feedAll_fresh (Node.tokensOf .word (nestedBlocks n)).reverse " b c;".toList
  rw [tokenize, Scanner.feedAll_append, Scanner.feedAll_nestedText, List.append_nil, hfresh, nestedNodes,
    Node.tokensOf_append, List.reverse_reverse]
  rfl

theorem parseText_nestedText :
    parseText 980 (nestedText 20000 ++ " b c;".toList) = .error .tooDeep := by
  refine (parseText_cases 980 _).2 ?_
  rw [tokenize_nestedText, (nestedNodes_derives 20000).blockDepth_eq, depthOf_nestedNodes]
  decide

end SitePreview
