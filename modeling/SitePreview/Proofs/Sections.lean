import SitePreview.Proofs.Derivations

namespace SitePreview

/-- What is read of one text and then of a further one. -/
def ParseResult.followedBy (r s : ParseResult) : ParseResult where
  nodes := r.nodes ++ s.nodes
  unclosedBlocks := r.unclosedBlocks + s.unclosedBlocks
  unmatchedClosers := r.unmatchedClosers + s.unmatchedClosers
  danglingDirectives := r.danglingDirectives + s.danglingDirectives

namespace Parser

/-- Open blocks and the innermost level, with further nodes before all of the outermost level. -/
def above (front : List Node) : List OpenBlock → List Node → List OpenBlock × List Node
  | [], level => ([], level ++ front)
  | b :: bs, level =>
    let (blocks, before) := above front bs b.before
    (⟨b.name, b.args, before⟩ :: blocks, level)

/-- A parser that had read all of `base` at the outermost level when it began. -/
def behind (base p : Parser) : Parser where
  level := (above base.level p.blocks p.level).2
  blocks := (above base.level p.blocks p.level).1
  parts := p.parts
  unmatchedClosers := base.unmatchedClosers + p.unmatchedClosers
  danglingDirectives := base.danglingDirectives + p.danglingDirectives

section Above

variable {front level : List Node} {blocks : List OpenBlock}

theorem above_cons (node : Node) :
    above front blocks (node :: level) =
      ((above front blocks level).1, node :: (above front blocks level).2) := by
  cases blocks <;> rfl

theorem length_above : (above front blocks level).1.length = blocks.length := by
  induction blocks generalizing level with
  | nil => rfl
  | cons b bs ih => exact congrArg (· + 1) ih

theorem head?_above (h : ∀ b ∈ blocks.head?, b.name ≠ []) :
    ∀ b ∈ (above front blocks level).1.head?, b.name ≠ [] := by
  cases blocks with
  | nil => exact h
  | cons c cs =>
    rintro _ ⟨⟩
    exact h c rfl

theorem any_above : ((above front blocks level).1.any fun b => b.name = []) =
    blocks.any fun b => b.name = [] := by
  induction blocks generalizing level with
  | nil => rfl
  | cons c cs ih =>
    rw [List.any_cons, ← ih]
    rfl

theorem closeAll_above :
    closeAll (above front blocks level).1 (above front blocks level).2 =
      front.reverse ++ closeAll blocks level := by
  induction blocks generalizing level with
  | nil => exact List.reverse_append
  | cons b bs ih =>
    calc closeAll (above front (b :: bs) level).1 (above front (b :: bs) level).2
      _ = closeAll (above front bs (.block b.name b.args level.reverse :: b.before)).1
          (above front bs (.block b.name b.args level.reverse :: b.before)).2 := by
        rw [above_cons]
        rfl
      _ = front.reverse ++ closeAll (b :: bs) level := ih

end Above

variable {room : Nat} {base p q : Parser} {t : Token} {e : ParseError}

theorem behind_start (hblocks : base.blocks = []) (hparts : base.parts = []) :
    base.behind {} = base := by
  cases base
  simp_all [behind, above]

theorem behind_directive {name : Text} {args : List Text} {danglings : Nat} :
    base.behind { p with
        level := .directive name args :: p.level
        parts := []
        danglingDirectives := danglings } =
      { base.behind p with
        level := .directive name args :: (base.behind p).level
        parts := []
        danglingDirectives := base.danglingDirectives + danglings } := by
  simp only [behind, above_cons]

theorem behind_close : base.behind p.close = (base.behind p).close := by
  cases hblocks : p.blocks with
  | nil => simp [close, behind, above, hblocks, Nat.add_assoc]
  | cons b bs => simp [close, behind, above, hblocks, above_cons]

/-- What a parser does with a token does not depend on what it had read before at the outermost
level. -/
theorem Takes.behind (h : Takes room p t q) (base : Parser) : Takes room (base.behind p) t (base.behind q) := by
  cases h with
  | part hv => exact .part hv
  | skip hparts ht => exact .skip hparts ht
  | close hparts hnamed =>
    rw [behind_close]
    exact .close hparts (head?_above hnamed)
  | directive hgroup hname =>
    rw [behind_directive]
    exact .directive hgroup hname
  | opening hgroup hroom => exact .opening hgroup (Nat.lt_of_le_of_lt (Nat.le_of_eq length_above) hroom)
  | dangling hgroup hname hnamed =>
    rw [behind_close, behind_directive]
    exact .dangling hgroup hname (head?_above hnamed)

theorem Refuses.behind (h : Refuses room p t e) (base : Parser) : Refuses room (base.behind p) t e := by
  cases h with
  | nameless hgroup ht => exact .nameless hgroup ht
  | @closing b bs hblocks hname =>
    have habove : (base.behind p).blocks = (above base.level (b :: bs) p.level).1 := by
      rw [Parser.behind, hblocks]
    exact .closing habove hname
  | opening hgroup hfull => exact .opening hgroup (Nat.le_trans hfull (Nat.le_of_eq length_above.symm))

theorem feed_behind : (base.behind p).feed room t = (p.feed room t).map base.behind := by
  cases h : p.feed room t with
  | ok q => exact ((feed_eq_ok.mp h).behind base).feed
  | error e => exact ((feed_eq_error.mp h).behind base).feed

theorem feedAll_behind {ts : List Token} :
    (base.behind p).feedAll room ts = (p.feedAll room ts).map base.behind := by
  induction ts generalizing p with
  | nil => rfl
  | cons t ts ih =>
    rw [feedAll_cons, feedAll_cons, feed_behind]
    cases p.feed room t with
    | ok q => exact ih
    | error e => rfl

theorem finish_behind (hblocks : base.blocks = []) (hparts : base.parts = []) :
    (base.behind p).finish = base.finish.followedBy p.finish := by
  simp [finish, ParseResult.followedBy, behind, closeAll_above, length_above, closeAll, hblocks,
    hparts, Nat.add_assoc]

theorem finishNamed_behind (hblocks : base.blocks = []) (hparts : base.parts = []) :
    (base.behind p).finishNamed = p.finishNamed.map base.finish.followedBy := by
  have hany : ((base.behind p).blocks.any fun b => b.name = []) = p.blocks.any fun b => b.name = [] :=
    any_above
  rw [finishNamed, finishNamed, hany, finish_behind hblocks hparts]
  split <;> rfl

end Parser

/-- After a section that closes all its blocks and ends with a mark, the tokens that follow are read as
they are read alone, and what they give is added to what the section gave. -/
theorem parseTokens_append_of_closed {room : Nat} {ts : List Token} {r : ParseResult}
    (hts : parseTokens room ts = .ok r) (hclosed : r.unclosedBlocks = 0)
    (hend : ∀ t ∈ ts.getLast?, t.isMark = true) (us : List Token) :
    parseTokens room (ts ++ us) = (parseTokens room us).map r.followedBy := by
  obtain ⟨base, hbase, -, rfl⟩ := parseTokens_eq_ok.mp hts
  have hblocks : base.blocks = [] := List.length_eq_zero_iff.mp hclosed
  have hparts : base.parts = [] := (Parser.parts_eq_nil_iff hbase).mpr hend
  have hrest : base.feedAll room us = (Parser.feedAll room {} us).map base.behind := by
    rw [← Parser.feedAll_behind, Parser.behind_start hblocks hparts]
  rw [parseTokens, Parser.feedAll_append hbase, hrest, parseTokens]
  cases Parser.feedAll room {} us with
  | error e => rfl
  | ok q => exact Parser.finishNamed_behind hblocks hparts

/-- A stray closing brace and a directive without its semicolon in a section that closes its block, and
an open block and words without a mark in the section after it. -/
theorem parseTokens_append_of_closed_damaged :
    let ts : List Token := [.rbrace, .word ['a'], .lbrace, .string ['b'], .rbrace]
    let us : List Token := [.word ['c'], .lbrace, .word ['d'], .semicolon, .word ['e']]
    let first : ParseResult := ⟨[.block ['a'] [] [.directive ['b'] []]], 0, 1, 1⟩
    let second : ParseResult := ⟨[.block ['c'] [] [.directive ['d'] []]], 1, 0, 1⟩
    parseTokens 1 ts = .ok first ∧ first.unclosedBlocks = 0 ∧
      (∀ t ∈ ts.getLast?, t.isMark = true) ∧ parseTokens 1 us = .ok second ∧
      parseTokens 1 (ts ++ us) = .ok ⟨first.nodes ++ second.nodes, 1, 1, 2⟩ := by
  intro ts us first second
  have hfirst : parseTokens 1 ts = .ok first := rfl
  have hsecond : parseTokens 1 us = .ok second := rfl
  have hend : ∀ t ∈ ts.getLast?, t.isMark = true := by simp [ts, Token.isMark, Token.part?]
  have hboth := parseTokens_append_of_closed hfirst rfl hend us
  rw [hsecond] at hboth
  exact ⟨hfirst, rfl, hend, hsecond, hboth⟩

end SitePreview
