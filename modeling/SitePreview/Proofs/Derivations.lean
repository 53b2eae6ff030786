import SitePreview.Proofs.ParseOutcome

namespace SitePreview

theorem Derives.append {ts us : List Token} {nodes more : List Node} (h : Derives ts nodes)
    (hmore : Derives us more) : Derives (ts ++ us) (nodes ++ more) := by
  induction h with
  | nil => exact hmore
  | semicolon _ ih => exact .semicolon ih
  | lbrace _ ih => exact .lbrace ih
  | directive hgroup _ ih =>
    rw [List.append_assoc]
    exact .directive hgroup ih
  | block hgroup hinner _ _ ih =>
    rw [List.append_assoc, List.cons_append, List.append_assoc]
    exact .block hgroup hinner ih

namespace Parser

section Between

variable {room : Nat} {level : List Node} {blocks : List OpenBlock} {closers danglings : Nat} {name : Text}
  {args : List Text} {group ts : List Token} {q : Parser}

theorem feedAll_skip {t : Token} (ht : t = .semicolon ∨ t = .lbrace) :
    feedAll room ⟨level, blocks, [], closers, danglings⟩ (t :: ts) =
      feedAll room ⟨level, blocks, [], closers, danglings⟩ ts :=
  (Takes.skip rfl ht).feedAll_cons

theorem feedAll_close {b : OpenBlock} (hname : b.name ≠ []) :
    feedAll room ⟨level, b :: blocks, [], closers, danglings⟩ (.rbrace :: ts) =
      feedAll room ⟨.block b.name b.args level.reverse :: b.before, blocks, [], closers, danglings⟩ ts := by
  refine (Takes.close rfl ?_).feedAll_cons
  rintro _ ⟨⟩
  exact hname

theorem feedAll_group (hgroup : Token.Spell group (name :: args)) :
    feedAll room ⟨level, blocks, [], closers, danglings⟩ (group ++ ts) =
      feedAll room ⟨level, blocks, (name :: args).reverse, closers, danglings⟩ ts := by
  rw [feedAll_append (feedAll_of_spell hgroup), List.append_nil]

theorem feedAll_directive (hgroup : Token.Spell group (name :: args)) (hname : name ≠ []) :
    feedAll room ⟨level, blocks, [], closers, danglings⟩ (group ++ .semicolon :: ts) =
      feedAll room ⟨.directive name args :: level, blocks, [], closers, danglings⟩ ts := by
  rw [feedAll_group hgroup]
  exact (Takes.directive (List.reverse_reverse _) hname).feedAll_cons

theorem feedAll_opening (hgroup : Token.Spell group (name :: args)) (hroom : blocks.length < room) :
    feedAll room ⟨level, blocks, [], closers, danglings⟩ (group ++ .lbrace :: ts) =
      feedAll room ⟨[], ⟨name, args, level⟩ :: blocks, [], closers, danglings⟩ ts := by
  rw [feedAll_group hgroup]
  exact (Takes.opening (List.reverse_reverse _) hroom).feedAll_cons

theorem feedAll_refused {t : Token} {e : ParseError} (hgroup : Token.Spell group (name :: args))
    (h : Refuses room ⟨level, blocks, (name :: args).reverse, closers, danglings⟩ t e) :
    feedAll room ⟨level, blocks, [], closers, danglings⟩ (group ++ t :: ts) = .error e := by
  rw [feedAll_group hgroup, feedAll_cons, h.feed]
  rfl

end Between

end Parser

/-- What is derived joins the innermost level, and nothing else changes, if the nodes have names and there is
room for their blocks. -/
theorem Derives.feedAll_eq_ok {room : Nat} {ts : List Token} {nodes : List Node} (h : Derives ts nodes)
    {level : List Node} {blocks : List OpenBlock} {closers danglings : Nat} {q : Parser}
    (hblocks : blocks.length ≤ room) :
    Parser.feedAll room ⟨level, blocks, [], closers, danglings⟩ ts = .ok q ↔
      Node.AreNamed nodes ∧ blocks.length + Node.depthOf nodes ≤ room ∧
        q = ⟨nodes.reverse ++ level, blocks, [], closers, danglings⟩ := by
  induction h generalizing level blocks q with
  | nil => simp [Parser.feedAll_nil, Node.AreNamed, Node.depthOf, hblocks, eq_comm]
  | semicolon _ ih => rw [Parser.feedAll_skip (.inl rfl), ih hblocks]
  | lbrace _ ih => rw [Parser.feedAll_skip (.inr rfl), ih hblocks]
  | @directive _ name args ts nodes hgroup _ ih =>
    -- Where the name is empty, the parser fails and the node has no name: both sides are false.
    by_cases hname : name = []
    · subst hname
      rw [Parser.feedAll_refused hgroup (.nameless (List.reverse_reverse _) (.inl rfl))]
      simp [Node.AreNamed, Node.IsNamed]
    · rw [Parser.feedAll_directive hgroup hname, ih hblocks]
      simp [Node.AreNamed, Node.IsNamed, Node.depthOf, Node.depth, hname]
  | @block _ name args inner children ts nodes hgroup _ _ ihinner ih =>
    have hdepth : blocks.length + Node.depthOf (.block name args children :: nodes) ≤ room ↔
        blocks.length + 1 + Node.depthOf children ≤ room ∧ blocks.length + Node.depthOf nodes ≤ room := by
      rw [Node.depthOf, Node.depth]
      omega
    rw [hdepth]
    rcases Nat.lt_or_ge blocks.length room with hroom | hfull
    · have hinside : (⟨name, args, level⟩ :: blocks : List OpenBlock).length ≤ room := hroom
      rw [Parser.feedAll_opening hgroup hroom, Parser.feedAll_append_eq_ok]
      simp only [ihinner hinside, and_assoc, exists_and_left, exists_eq_left, List.length_cons]
      by_cases hname : name = []
      · subst hname
        rw [Parser.feedAll_cons, (Parser.Refuses.closing rfl rfl).feed]
        simp [Node.AreNamed, Node.IsNamed, bind, Except.bind]
      · rw [Parser.feedAll_close hname, ih hblocks]
        simp only [Node.AreNamed, Node.IsNamed, ne_eq, hname, not_false_eq_true, true_and,
          List.append_nil, List.reverse_reverse, List.reverse_cons, List.append_assoc,
          List.singleton_append]
        tauto
    · rw [Parser.feedAll_refused hgroup (.opening (List.reverse_reverse _) hfull)]
      refine iff_of_false nofun ?_
      rintro ⟨-, ⟨hinside, -⟩, -⟩
      omega

/-- Tokens from which a parser has its open blocks and its innermost level, if it has met no damage.
Both are held newest first. -/
inductive Pending : List Token → List OpenBlock → List Node → Prop
  | top {ts level} : Derives ts level.reverse → Pending ts [] level
  | within {ts group inner b blocks level} : Pending ts blocks b.before →
      Token.Spell group (b.name :: b.args) → Derives inner level.reverse →
      Pending (ts ++ group ++ .lbrace :: inner) (b :: blocks) level

namespace Pending

variable {ts group : List Token} {blocks : List OpenBlock} {level : List Node} {name : Text}
  {args : List Text}

theorem append {us : List Token} {nodes : List Node} (h : Pending ts blocks level)
    (hmore : Derives us nodes) : Pending (ts ++ us) blocks (nodes.reverse ++ level) := by
  cases h with
  | top hlevel =>
    refine .top ?_
    rw [List.reverse_append, List.reverse_reverse]
    exact hlevel.append hmore
  | within houter hgroup hlevel =>
    rw [List.append_assoc, List.cons_append]
    refine .within houter hgroup ?_
    rw [List.reverse_append, List.reverse_reverse]
    exact hlevel.append hmore

theorem skip {t : Token} (h : Pending ts blocks level) (ht : t = .semicolon ∨ t = .lbrace) :
    Pending (ts ++ [t]) blocks level := by
  rcases ht with rfl | rfl
  · exact h.append (.semicolon .nil)
  · exact h.append (.lbrace .nil)

theorem directive (h : Pending ts blocks level) (hgroup : Token.Spell group (name :: args)) :
    Pending (ts ++ group ++ [.semicolon]) blocks (.directive name args :: level) := by
  rw [List.append_assoc]
  exact h.append (.directive hgroup .nil)

theorem opening (h : Pending ts blocks level) (hgroup : Token.Spell group (name :: args)) :
    Pending (ts ++ group ++ [.lbrace]) (⟨name, args, level⟩ :: blocks) [] :=
  .within (b := ⟨name, args, level⟩) h hgroup .nil

theorem close {b : OpenBlock} (h : Pending ts (b :: blocks) level) :
    Pending (ts ++ [.rbrace]) blocks (.block b.name b.args level.reverse :: b.before) := by
  cases h with
  | within houter hgroup hlevel =>
    have hblock := houter.append (.block hgroup hlevel .nil)
    simpa using hblock

end Pending

namespace Parser

def IsClean (p : Parser) : Prop := p.unmatchedClosers = 0 ∧ p.danglingDirectives = 0

theorem exists_block_of_close_isClean {p : Parser} (h : p.close.IsClean) :
    p.IsClean ∧ ∃ b bs, p.blocks = b :: bs := by
  cases hblocks : p.blocks with
  | nil =>
    rw [IsClean, close, hblocks] at h
    exact absurd h.1 (by simp)
  | cons b bs =>
    rw [IsClean, close, hblocks] at h
    exact ⟨h, b, bs, rfl⟩

theorem close_of_blocks {p : Parser} {b : OpenBlock} {bs : List OpenBlock} (h : p.blocks = b :: bs) :
    p.close =
      { p with level := .block b.name b.args p.level.reverse :: b.before, blocks := bs } := by
  simp [close, h]

/-- A parser without damage has derived what it has read, up to the parts of the directive that it
is reading. -/
def Reads (ts : List Token) (p : Parser) : Prop :=
  p.IsClean → ∃ read group, ts = read ++ group ∧ Pending read p.blocks p.level ∧
    Token.Spell group p.parts.reverse

theorem Reads.next {ts : List Token} {t : Token} {p q : Parser} (h : p.Reads ts)
    (hstep : Takes room p t q) : q.Reads (ts ++ [t]) := by
  intro hclean
  cases hstep with
  | part hv =>
    obtain ⟨read, group, rfl, hread, hgroup⟩ := h hclean
    refine ⟨read, group ++ [t], by simp, hread, ?_⟩
    rw [List.reverse_cons]
    exact hgroup.concat hv
  | skip hparts ht =>
    -- Without parts there is no group after what has been derived.
    obtain ⟨read, group, rfl, hread, hgroup⟩ := h hclean
    rw [hparts] at hgroup
    rw [Token.spell_nil.mp hgroup, List.append_nil]
    exact ⟨read ++ [t], [], by simp, hread.skip ht, by rw [hparts]; rfl⟩
  | close hparts =>
    obtain ⟨hbefore, b, bs, hblocks⟩ := exists_block_of_close_isClean hclean
    obtain ⟨read, group, rfl, hread, hgroup⟩ := h hbefore
    rw [hparts] at hgroup
    rw [hblocks] at hread
    rw [Token.spell_nil.mp hgroup, List.append_nil, close_of_blocks hblocks]
    exact ⟨read ++ [.rbrace], [], by simp, hread.close, by rw [hparts]; rfl⟩
  | directive hparts hname =>
    obtain ⟨read, group, rfl, hread, hgroup⟩ := h hclean
    rw [hparts] at hgroup
    exact ⟨read ++ group ++ [.semicolon], [], by simp, hread.directive hgroup, rfl⟩
  | opening hparts hname =>
    obtain ⟨read, group, rfl, hread, hgroup⟩ := h hclean
    rw [hparts] at hgroup
    exact ⟨read ++ group ++ [.lbrace], [], by simp, hread.opening hgroup, rfl⟩
  | dangling hparts hname =>
    -- This step is damage, so the next parser is not clean.
    obtain ⟨⟨_, hdangling⟩, _⟩ := exists_block_of_close_isClean hclean
    cases hdangling

theorem reads_of_feedAll {ts : List Token} {q : Parser} (h : feedAll room {} ts = .ok q) : q.Reads ts :=
  feedAll_induction (fun _ => ⟨[], [], rfl, .top .nil, rfl⟩) (fun _ _ _ _ hts ht => hts.next ht) h

theorem isComplete_finish {p : Parser} :
    p.finish.isComplete = true ↔ p.blocks = [] ∧ p.IsClean ∧ p.parts = [] := by
  simp [finish, ParseResult.isComplete, IsClean, and_assoc]

end Parser

theorem derives_of_isComplete {room : Nat} {ts : List Token} {r : ParseResult}
    (h : parseTokens room ts = .ok r) (hcomplete : r.isComplete = true) : Derives ts r.nodes := by
  obtain ⟨q, hq, -, rfl⟩ := parseTokens_eq_ok.mp h
  obtain ⟨hblocks, hclean, hparts⟩ := Parser.isComplete_finish.mp hcomplete
  obtain ⟨read, group, rfl, hread, hgroup⟩ := Parser.reads_of_feedAll hq hclean
  rw [hparts] at hgroup
  rw [hblocks] at hread
  rw [Token.spell_nil.mp hgroup, List.append_nil]
  cases hread with
  | top hlevel => rwa [Parser.finish, hblocks]

/-- What is derived is parsed without damage, if its nodes have names and there is room for its blocks. -/
theorem Derives.parsed_iff {room : Nat} {ts : List Token} {nodes : List Node} (h : Derives ts nodes)
    {r : ParseResult} : parseTokens room ts = .ok r ↔
      Node.AreNamed nodes ∧ Node.depthOf nodes ≤ room ∧ r = ⟨nodes, 0, 0, 0⟩ := by
  have hread {q : Parser} : Parser.feedAll room ⟨[], [], [], 0, 0⟩ ts = .ok q ↔ _ :=
    h.feedAll_eq_ok room.zero_le
  rw [parseTokens_eq_ok]
  simp only [hread, and_assoc, exists_and_left, exists_eq_left]
  simp [Parser.finish, Parser.closeAll, Parser.IsNamed, eq_comm]

theorem Token.Spell.foldl_next {group : List Token} {vs : List Text} (h : Spell group vs) (n : Nesting) :
    group.foldl Nesting.next n = { n with afterPart := n.afterPart || !vs.isEmpty } := by
  induction vs generalizing group n with
  | nil =>
    rw [spell_nil.mp h]
    simp
  | cons v vs ih =>
    obtain ⟨t, rest, rfl, ht, hrest⟩ := spell_cons.mp h
    rw [List.foldl_cons, Nesting.next_of_part ht, ih hrest]
    simp

theorem Derives.foldl_next {ts : List Token} {nodes : List Node} (h : Derives ts nodes) {opened deepest : Nat}
    (hopened : opened ≤ deepest) : ts.foldl Nesting.next ⟨opened, deepest, false⟩ =
      ⟨opened, max deepest (opened + Node.depthOf nodes), false⟩ := by
  induction h generalizing opened deepest with
  | nil => simp [Node.depthOf, hopened]
  | semicolon _ ih | lbrace _ ih => exact ih hopened
  | directive hgroup _ ih =>
    rw [List.foldl_append, hgroup.foldl_next, List.foldl_cons]
    simp [Nesting.next, ih hopened, Node.depthOf, Node.depth]
  | @block _ _ _ _ children _ nodes hgroup _ _ ihinner ih =>
    have hafter : opened ≤ max (max deepest (opened + 1)) (opened + 1 + Node.depthOf children) := by omega
    have hdeepest : max (max (max deepest (opened + 1)) (opened + 1 + Node.depthOf children))
        (opened + Node.depthOf nodes) =
          max deepest (opened + max (Node.depthOf children + 1) (Node.depthOf nodes)) := by omega
    rw [List.foldl_append, hgroup.foldl_next, List.foldl_cons, List.foldl_append, List.foldl_cons]
    simp only [Nesting.next, List.isEmpty_cons, Bool.not_false, Bool.or_true, if_true]
    rw [ihinner (Nat.le_max_right _ _), Node.depthOf, Node.depth, ← hdeepest]
    exact ih hafter

theorem Derives.blockDepth_eq {ts : List Token} {nodes : List Node} (h : Derives ts nodes) :
    blockDepth ts = Node.depthOf nodes := by
  have hfold := h.foldl_next (Nat.le_refl 0)
  simpa [blockDepth, Nesting.ofTokens] using congrArg Nesting.deepest hfold

theorem Token.spell_map {spell : Text → Token} (hspell : ∀ v, (spell v).part? = some v)
    (vs : List Text) : Token.Spell (vs.map spell) vs := by
  rw [Token.Spell, List.map_map]
  exact List.map_congr_left fun v _ => hspell v

mutual

theorem Node.tokens_derives {spell : Text → Token} (hspell : ∀ v, (spell v).part? = some v)
    (node : Node) {ts : List Token} {nodes : List Node} (h : Derives ts nodes) :
    Derives (node.tokens spell ++ ts) (node :: nodes) := by
  cases node with
  | directive name args =>
    rw [Node.tokens, List.append_assoc]
    exact .directive (Token.spell_map hspell _) h
  | block name args children =>
    have hchildren := Node.tokensOf_derives hspell children
    rw [Node.tokens, List.append_assoc, List.cons_append, List.append_assoc]
    exact .block (Token.spell_map hspell _) hchildren h

theorem Node.tokensOf_derives {spell : Text → Token} (hspell : ∀ v, (spell v).part? = some v)
    (nodes : List Node) : Derives (Node.tokensOf spell nodes) nodes := by
  cases nodes with
  | nil => exact .nil
  | cons node nodes => exact node.tokens_derives hspell (Node.tokensOf_derives hspell nodes)

end

theorem Derives.groupsNamed {ts : List Token} {nodes : List Node} (h : Derives ts nodes)
    (hnamed : Node.AreNamed nodes) : GroupsNamed ts := by
  have hparsed := (h.parsed_iff (r := ⟨nodes, 0, 0, 0⟩)).mpr ⟨hnamed, Nat.le_refl _, rfl⟩
  exact (exists_parseTokens_iff.mp ⟨_, hparsed⟩).1

/-- Where the groups have names and there is room for the blocks, a parse is without damage just if the tokens
are derived, and then it gives the nodes of the derivation. Where there is no room, it fails. A tree that is
written out is parsed back just if there is room for it. -/
theorem parseTokens_isComplete_iff_derives (room : Nat) :
    (∀ ts, GroupsNamed ts → blockDepth ts ≤ room → ∃ r, parseTokens room ts = .ok r ∧
      (r.isComplete = true ↔ ∃ nodes, Derives ts nodes) ∧ ∀ nodes, Derives ts nodes → r.nodes = nodes) ∧
    (∀ ts, GroupsNamed ts → room < blockDepth ts → parseTokens room ts = .error .tooDeep) ∧
    ∀ spell nodes, (∀ v, Token.part? (spell v) = some v) → Node.AreNamed nodes →
      parseTokens room (Node.tokensOf spell nodes) =
        if Node.depthOf nodes ≤ room then .ok ⟨nodes, 0, 0, 0⟩ else .error .tooDeep := by
  refine ⟨?_, fun ts => parseTokens_of_tooDeep, ?_⟩
  · intro ts hnamed hdepth
    obtain ⟨r, hparse⟩ := exists_parseTokens_iff.mpr ⟨hnamed, hdepth⟩
    have hfound (nodes : List Node) (hderived : Derives ts nodes) : r = ⟨nodes, 0, 0, 0⟩ :=
      (hderived.parsed_iff.mp hparse).2.2
    refine ⟨r, hparse, ⟨fun h => ⟨_, derives_of_isComplete hparse h⟩, ?_⟩, ?_⟩
    · rintro ⟨nodes, hderived⟩
      rw [hfound nodes hderived]
      rfl
    · intro nodes hderived
      rw [hfound nodes hderived]
  · intro spell nodes hspell hnamed
    have hderived := Node.tokensOf_derives hspell nodes
    split
    next hdepth => exact hderived.parsed_iff.mpr ⟨hnamed, hdepth, rfl⟩
    next hdepth =>
      refine parseTokens_of_tooDeep (hderived.groupsNamed hnamed) ?_
      rw [hderived.blockDepth_eq]
      exact Nat.lt_of_not_le hdepth

theorem parseTokens_isComplete_iff_derives_server :
    let nodes : List Node := [.block ['s'] [] [.directive ['p'] [['8'], ['0']]]]
    let ts : List Token :=
      [.word ['s'], .lbrace, .lbrace, .word ['p'], .string ['8'], .word ['0'], .semicolon, .rbrace,
        .semicolon]
    GroupsNamed ts ∧ blockDepth ts ≤ 1 ∧ Derives ts nodes ∧ Node.AreNamed nodes ∧
      (∃ r, parseTokens 1 ts = .ok r ∧ r.isComplete = true ∧ r.nodes = nodes) ∧
      (0 < blockDepth ts ∧ parseTokens 0 ts = .error .tooDeep) ∧
      parseTokens 1 (Node.tokensOf .string nodes) = .ok ⟨nodes, 0, 0, 0⟩ := by
  intro nodes ts
  have hnamed : GroupsNamed ts := groupsNamed_of_filled (by decide)
  have hport : Token.Spell [.word ['p'], .string ['8'], .word ['0']] [['p'], ['8'], ['0']] := rfl
  have hserver : Token.Spell [.word ['s']] [['s']] := rfl
  have hderived : Derives ts nodes :=
    Derives.block hserver (.lbrace (.directive hport .nil)) (.semicolon .nil)
  have hnodes : Node.AreNamed nodes := by simp [nodes, Node.AreNamed, Node.IsNamed]
  have hdepth : blockDepth ts = 1 := rfl
  obtain ⟨hread, -, hwritten⟩ := parseTokens_isComplete_iff_derives 1
  obtain ⟨-, hdeep, -⟩ := parseTokens_isComplete_iff_derives 0
  obtain ⟨r, hr, hcomplete, hfound⟩ := hread ts hnamed (Nat.le_of_eq hdepth)
  have hfits : blockDepth ts ≤ 1 := Nat.le_of_eq hdepth
  have hlacks : 0 < blockDepth ts := Nat.lt_of_lt_of_eq Nat.one_pos hdepth.symm
  exact ⟨hnamed, hfits, hderived, hnodes,
    ⟨r, hr, hcomplete.mpr ⟨nodes, hderived⟩, hfound nodes hderived⟩,
    ⟨hlacks, hdeep ts hnamed hlacks⟩, hwritten .string nodes (fun _ => rfl) hnodes⟩

def nestedBlocks : Nat → List Node
  | 0 => []
  | n + 1 => [.block ['a'] [] (nestedBlocks n)]

/-- Blocks in each other, and a directive behind them. -/
def nestedNodes (n : Nat) : List Node := nestedBlocks n ++ [.directive ['b'] [['c']]]

theorem depthOf_nestedNodes (n : Nat) : Node.depthOf (nestedNodes n) = n := by
  have hblocks (n : Nat) : Node.depthOf (nestedBlocks n) = n := by
    induction n with
    | zero => rfl
    | succ n ih => simp [nestedBlocks, Node.depthOf, Node.depth, ih]
  cases n <;> simp [nestedNodes, nestedBlocks, Node.depthOf, Node.depth, hblocks]

theorem areNamed_nestedNodes (n : Nat) : Node.AreNamed (nestedNodes n) := by
  have hblocks (n : Nat) : Node.AreNamed (nestedBlocks n) := by
    induction n with
    | zero => trivial
    | succ n ih => simp [nestedBlocks, Node.AreNamed, Node.IsNamed, ih]
  cases n <;> simp [nestedNodes, nestedBlocks, Node.AreNamed, Node.IsNamed, hblocks]

theorem nestedNodes_derives (n : Nat) : Derives (Node.tokensOf .word (nestedNodes n)) (nestedNodes n) :=
  Node.tokensOf_derives (fun _ => rfl) _

/-- Twenty thousand blocks in each other are derived, and there is no room for them. -/
theorem parseTokens_nestedNodes :
    let ts := Node.tokensOf .word (nestedNodes 20000)
    GroupsNamed ts ∧ Node.AreNamed (nestedNodes 20000) ∧ Derives ts (nestedNodes 20000) ∧
      parseTokens 980 ts = .error .tooDeep := by
  intro ts
  have hderived : Derives ts (nestedNodes 20000) := nestedNodes_derives 20000
  have hnamed : GroupsNamed ts := hderived.groupsNamed (areNamed_nestedNodes 20000)
  have hdepth : 980 < blockDepth ts := by
    rw [hderived.blockDepth_eq, depthOf_nestedNodes]
    decide
  exact ⟨hnamed, areNamed_nestedNodes 20000, hderived, parseTokens_of_tooDeep hnamed hdepth⟩

end SitePreview
