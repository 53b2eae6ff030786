import Mathlib
import SitePreview.Proofs.Derivations

namespace SitePreview

/-- How many groups of words and strings end at such a mark. -/
def groupsEndedBy (mark : Token) (ts : List Token) : Nat :=
  (ts.zip ts.tail).countP fun (before, t) => !before.isMark && t = mark

/-- The tokens end within a group, which has no mark yet. -/
def endsInGroup (ts : List Token) : Bool := ts.getLast?.any fun t => !t.isMark

/-- How many closing braces there are more than braces that open a block. -/
def closingExcess (ts : List Token) : Int := ts.count .rbrace - groupsEndedBy .lbrace ts

/-- The tokens leave so many closing braces unmatched and so many blocks open. -/
structure Balances (ts : List Token) (unmatched opened : Nat) : Prop where
  greatest : IsGreatest {d | ∃ us, us <+: ts ∧ closingExcess us = d} (unmatched : Int)
  opened : (opened : Int) = unmatched - closingExcess ts

namespace Node

mutual

def subnodes : Node → List Node
  | directive name args => [directive name args]
  | block name args children => block name args children :: subnodesOf children

def subnodesOf : List Node → List Node
  | [] => []
  | node :: nodes => node.subnodes ++ subnodesOf nodes

end

def isBlock (node : Node) : Bool := node.block?.isSome

def isDirective (node : Node) : Bool := node.directive?.isSome

/-- How many nodes of a kind there are at any depth. -/
def tally (kind : Node → Bool) (nodes : List Node) : Nat := (subnodesOf nodes).countP kind

/-- A kind of nodes for which it does not matter what stands below a block. -/
def IsShallow (kind : Node → Bool) : Prop :=
  ∀ name args children others, kind (.block name args children) = kind (.block name args others)

theorem isBlock_isShallow : IsShallow isBlock := fun _ _ _ _ => rfl

theorem isDirective_isShallow : IsShallow isDirective := fun _ _ _ _ => rfl

section Tally

variable {kind : Node → Bool} {name : Text} {args : List Text}

@[simp] theorem tally_isBlock_directive : tally isBlock [.directive name args] = 0 := rfl

@[simp] theorem tally_isBlock_block : tally isBlock [.block name args []] = 1 := rfl

@[simp] theorem tally_isDirective_directive : tally isDirective [.directive name args] = 1 := rfl

@[simp] theorem tally_isDirective_block : tally isDirective [.block name args []] = 0 := rfl

theorem subnodesOf_append (nodes more : List Node) :
    subnodesOf (nodes ++ more) = subnodesOf nodes ++ subnodesOf more := by
  induction nodes with
  | nil => rfl
  | cons node nodes ih => rw [List.cons_append, subnodesOf, subnodesOf, ih, List.append_assoc]

theorem tally_append (nodes more : List Node) :
    tally kind (nodes ++ more) = tally kind nodes + tally kind more := by
  rw [tally, subnodesOf_append, List.countP_append]
  rfl

theorem tally_cons (node : Node) (nodes : List Node) :
    tally kind (node :: nodes) = tally kind [node] + tally kind nodes :=
  tally_append [node] nodes

theorem tally_reverse (nodes : List Node) : tally kind nodes.reverse = tally kind nodes := by
  induction nodes with
  | nil => rfl
  | cons node nodes ih => rw [List.reverse_cons, tally_append, ih, Nat.add_comm, ← tally_cons]

theorem tally_block (hkind : IsShallow kind) (children : List Node) :
    tally kind [.block name args children] = tally kind [.block name args []] + tally kind children := by
  simp only [tally, subnodesOf, subnodes, List.append_nil, List.countP_cons, List.countP_nil,
    hkind name args children []]
  omega

end Tally

end Node

section OneMore

variable {ts : List Token} {t : Token}

theorem Token.ne_marks_of_part? {v : Text} (hv : t.part? = some v) :
    t ≠ .lbrace ∧ t ≠ .rbrace ∧ t ≠ .semicolon := by
  cases t <;> simp [part?] at hv ⊢

theorem zip_tail_concat {α : Type} (xs : List α) (x : α) :
    (xs ++ [x]).zip (xs ++ [x]).tail = xs.zip xs.tail ++ (xs.getLast?.map (·, x)).toList := by
  induction xs with
  | nil => rfl
  | cons y xs ih =>
    cases xs with
    | nil => rfl
    | cons z xs => simpa using ih

theorem groupsEndedBy_concat (mark : Token) (ts : List Token) (t : Token) :
    groupsEndedBy mark (ts ++ [t]) =
      groupsEndedBy mark ts + if endsInGroup ts ∧ t = mark then 1 else 0 := by
  rw [groupsEndedBy, zip_tail_concat, List.countP_append, groupsEndedBy, endsInGroup]
  cases ts.getLast? <;> simp [List.countP_cons]

theorem endsInGroup_concat (ts : List Token) (t : Token) : endsInGroup (ts ++ [t]) = !t.isMark := by
  simp [endsInGroup]

theorem closingExcess_concat (ts : List Token) (t : Token) :
    closingExcess (ts ++ [t]) = closingExcess ts + (if t = .rbrace then 1 else 0) -
      if endsInGroup ts ∧ t = .lbrace then 1 else 0 := by
  rw [closingExcess, groupsEndedBy_concat, List.count_append, List.count_singleton, closingExcess]
  split <;> split <;> simp_all <;> omega

theorem Balances.nil : Balances [] 0 0 := by
  refine ⟨⟨⟨[], List.prefix_rfl, rfl⟩, ?_⟩, rfl⟩
  rintro _ ⟨us, hus, rfl⟩
  rw [List.prefix_nil.mp hus]
  rfl

/-- One more token either raises the greatest excess or leaves it. -/
theorem Balances.concat {unmatched opened more open' : Nat} (h : Balances ts unmatched opened)
    (hmore : (more : Int) = max (unmatched : Int) (closingExcess (ts ++ [t])))
    (hopen : (open' : Int) = more - closingExcess (ts ++ [t])) : Balances (ts ++ [t]) more open' := by
  obtain ⟨us, hus, hattained⟩ := h.greatest.1
  refine ⟨⟨?_, ?_⟩, hopen⟩
  · rcases le_total (unmatched : Int) (closingExcess (ts ++ [t])) with hraised | hleft
    · exact ⟨ts ++ [t], List.prefix_rfl, by omega⟩
    · exact ⟨us, hus.trans (List.prefix_append ts [t]), by omega⟩
  · rintro _ ⟨vs, hvs, rfl⟩
    rcases List.prefix_concat_iff.mp hvs with rfl | hvs
    · omega
    · have hbound := h.greatest.2 ⟨vs, hvs, rfl⟩
      omega

end OneMore

namespace Parser

variable {room : Nat} {p q : Parser} {t : Token} {ts : List Token} {kind : Node → Bool} {name : Text}
  {args : List Text}

/-- Some parts of a directive have been read, and no mark after them. -/
def inGroup (p : Parser) : Bool := !p.parts.isEmpty

theorem inGroup_of_nil (h : p.parts = []) : p.inGroup = false := by simp [inGroup, h]

theorem inGroup_of_cons (h : p.parts.reverse = name :: args) : p.inGroup = true := by
  cases hparts : p.parts with
  | nil => simp [hparts] at h
  | cons => simp [inGroup, hparts]

theorem tally_closeAll_cons (hkind : Node.IsShallow kind) (blocks : List OpenBlock) (node : Node)
    (level : List Node) : Node.tally kind (closeAll blocks (node :: level)) =
      Node.tally kind [node] + Node.tally kind (closeAll blocks level) := by
  induction blocks generalizing node level with
  | nil =>
    rw [closeAll, closeAll, Node.tally_reverse, Node.tally_reverse]
    exact Node.tally_cons node level
  | cons b bs ih =>
    have hlevel : Node.tally kind (node :: level) = _ := Node.tally_cons node level
    rw [closeAll, closeAll, ih, ih (.block b.name b.args level.reverse), Node.tally_block hkind,
      Node.tally_block hkind level.reverse, Node.tally_reverse, Node.tally_reverse, hlevel]
    omega

/-- A directive that is read counts at once, whatever becomes of the blocks around it. -/
theorem tally_directive (hkind : Node.IsShallow kind) {danglings : Nat} :
    Node.tally kind ({ p with
      level := .directive name args :: p.level
      parts := []
      danglingDirectives := danglings } : Parser).finish.nodes =
        Node.tally kind [.directive name args] + Node.tally kind p.finish.nodes :=
  tally_closeAll_cons hkind p.blocks _ p.level

/-- A block counts from its opening brace on. -/
theorem tally_opening (hkind : Node.IsShallow kind) :
    Node.tally kind ({ p with
      level := []
      blocks := ⟨name, args, p.level⟩ :: p.blocks
      parts := [] } : Parser).finish.nodes =
        Node.tally kind [.block name args []] + Node.tally kind p.finish.nodes :=
  tally_closeAll_cons hkind p.blocks _ p.level

theorem nodes_close (p : Parser) : p.close.finish.nodes = p.finish.nodes := by
  cases hblocks : p.blocks <;> simp [close, finish, closeAll, hblocks]

theorem danglingDirectives_close (p : Parser) : p.close.danglingDirectives = p.danglingDirectives := by
  cases hblocks : p.blocks <;> simp [close, hblocks]

theorem Takes.tally_isBlock (h : Takes room p t q) : Node.tally Node.isBlock q.finish.nodes =
    Node.tally Node.isBlock p.finish.nodes + if p.inGroup ∧ t = .lbrace then 1 else 0 := by
  have hshallow := Node.isBlock_isShallow
  cases h with
  | part hv => simp [Token.ne_marks_of_part? hv, finish]
  | skip hparts _ => simp [inGroup_of_nil hparts]
  | close hparts _ => simp [nodes_close]
  | directive hgroup _ => simp [tally_directive hshallow]
  | opening hgroup _ => simp [tally_opening hshallow, inGroup_of_cons hgroup, Nat.add_comm]
  | dangling hgroup _ _ => simp [nodes_close, tally_directive hshallow]

theorem Takes.tally_isDirective (h : Takes room p t q) : Node.tally Node.isDirective q.finish.nodes =
    Node.tally Node.isDirective p.finish.nodes +
      if p.inGroup ∧ (t = .semicolon ∨ t = .rbrace) then 1 else 0 := by
  have hshallow := Node.isDirective_isShallow
  cases h with
  | part hv => simp [Token.ne_marks_of_part? hv, finish]
  | skip hparts _ => simp [inGroup_of_nil hparts]
  | close hparts _ => simp [nodes_close, inGroup_of_nil hparts]
  | directive hgroup _ => simp [tally_directive hshallow, inGroup_of_cons hgroup, Nat.add_comm]
  | opening hgroup _ => simp [tally_opening hshallow]
  | dangling hgroup _ _ => simp [nodes_close, tally_directive hshallow, inGroup_of_cons hgroup, Nat.add_comm]

theorem Takes.danglingDirectives (h : Takes room p t q) : q.danglingDirectives =
    p.danglingDirectives + if p.inGroup ∧ t = .rbrace then 1 else 0 := by
  cases h with
  | part hv => simp [Token.ne_marks_of_part? hv]
  | skip hparts _ => simp [inGroup_of_nil hparts]
  | close hparts _ => simp [danglingDirectives_close, inGroup_of_nil hparts]
  | directive | opening => simp
  | dangling hgroup _ _ => simp [danglingDirectives_close, inGroup_of_cons hgroup]

/-- A closing brace closes a block, or else the closing braces exceed as they never did before. -/
theorem balances_close (h : Balances ts p.unmatchedClosers p.blocks.length)
    (hmore : closingExcess (ts ++ [t]) = closingExcess ts + 1) :
    Balances (ts ++ [t]) p.close.unmatchedClosers p.close.blocks.length := by
  have hopened := h.opened
  cases hblocks : p.blocks with
  | nil =>
    rw [hblocks, List.length_nil] at hopened
    refine h.concat ?_ ?_ <;> simp [close, hblocks] <;> omega
  | cons b bs =>
    rw [hblocks, List.length_cons] at hopened
    refine h.concat ?_ ?_ <;> simp [close, hblocks] <;> omega

theorem Takes.balances (h : Takes room p t q) (hp : Balances ts p.unmatchedClosers p.blocks.length)
    (hends : endsInGroup ts = p.inGroup) : Balances (ts ++ [t]) q.unmatchedClosers q.blocks.length := by
  have hopened := hp.opened
  have hexcess := closingExcess_concat ts t
  rw [hends] at hexcess
  have hsame (hstep : closingExcess (ts ++ [t]) = closingExcess ts) :
      Balances (ts ++ [t]) p.unmatchedClosers p.blocks.length :=
    hp.concat (by omega) (by omega)
  cases h with
  | part hv => exact hsame (by simpa [Token.ne_marks_of_part? hv] using hexcess)
  | skip hparts ht =>
    refine hsame ?_
    rcases ht with rfl | rfl <;> simpa [inGroup_of_nil hparts] using hexcess
  | close hparts _ => exact balances_close hp (by simpa using hexcess)
  | directive hgroup _ => exact hsame (by simpa using hexcess)
  | opening hgroup _ =>
    have hless : closingExcess (ts ++ [.lbrace]) = closingExcess ts - 1 := by
      simpa [inGroup_of_cons hgroup] using hexcess
    refine hp.concat ?_ ?_ <;> simp <;> omega
  | dangling hgroup _ _ => exact balances_close hp (by simpa using hexcess)

/-- What a parser that has taken the tokens has counted. -/
structure Accounts (ts : List Token) (p : Parser) : Prop where
  inGroup : endsInGroup ts = p.inGroup
  blocks : Node.tally Node.isBlock p.finish.nodes = groupsEndedBy .lbrace ts
  directives : Node.tally Node.isDirective p.finish.nodes =
    groupsEndedBy .semicolon ts + groupsEndedBy .rbrace ts
  danglings : p.danglingDirectives = groupsEndedBy .rbrace ts
  balances : Balances ts p.unmatchedClosers p.blocks.length

theorem Accounts.next (hp : Accounts ts p) (h : Takes room p t q) : Accounts (ts ++ [t]) q where
  inGroup := by rw [endsInGroup_concat, Parser.inGroup, h.isEmpty_parts]
  blocks := by rw [h.tally_isBlock, hp.blocks, groupsEndedBy_concat, hp.inGroup]
  directives := by
    rw [h.tally_isDirective, hp.directives, groupsEndedBy_concat, groupsEndedBy_concat, hp.inGroup]
    cases t <;> simp <;> omega
  danglings := by rw [h.danglingDirectives, hp.danglings, groupsEndedBy_concat, hp.inGroup]
  balances := h.balances hp.balances hp.inGroup

theorem accounts_of_feedAll (h : feedAll room {} ts = .ok q) : Accounts ts q :=
  feedAll_induction ⟨rfl, rfl, rfl, rfl, .nil⟩ (fun _ _ _ _ hp ht => hp.next ht) h

end Parser

/-- A parse has a block for each opening brace behind a group, and a directive for each semicolon or closing
brace behind one. Its unmatched closing braces are the greatest excess over such opening braces that the
tokens reach, and what is then missing at their end is unclosed. -/
theorem parseTokens_counts {room : Nat} {ts : List Token} {r : ParseResult} (h : parseTokens room ts = .ok r) :
    Node.tally Node.isBlock r.nodes = groupsEndedBy .lbrace ts ∧
      IsGreatest {d | ∃ us, us <+: ts ∧ closingExcess us = d} (r.unmatchedClosers : Int) ∧
      (r.unclosedBlocks : Int) =
        groupsEndedBy .lbrace ts - ts.count .rbrace + r.unmatchedClosers ∧
      Node.tally Node.isDirective r.nodes = groupsEndedBy .semicolon ts + groupsEndedBy .rbrace ts ∧
      r.danglingDirectives = groupsEndedBy .rbrace ts + if endsInGroup ts then 1 else 0 := by
  obtain ⟨q, hq, -, rfl⟩ := parseTokens_eq_ok.mp h
  have hcounts := Parser.accounts_of_feedAll hq
  refine ⟨hcounts.blocks, hcounts.balances.greatest, ?_, hcounts.directives, ?_⟩
  · have hopened := hcounts.balances.opened
    rw [closingExcess] at hopened
    show (q.blocks.length : Int) = _ + (q.unmatchedClosers : Int)
    omega
  · rw [hcounts.inGroup, Parser.inGroup, Parser.finish, hcounts.danglings]
    cases q.parts.isEmpty <;> rfl

/-- A stray closing brace before and after a block, braces and a semicolon that end no group, a directive
without its semicolon, and two open blocks, in the second of which the tokens end within a group. -/
def unevenTokens : List Token :=
  [.rbrace, .word ['a'], .lbrace, .word ['b'], .rbrace, .rbrace, .lbrace, .string ['c'], .lbrace,
    .semicolon, .word ['d'], .word ['e'], .lbrace, .word ['f'], .semicolon, .string ['g']]

theorem parseTokens_counts_uneven :
    let nodes : List Node :=
      [.block ['a'] [] [.directive ['b'] []], .block ['c'] [] [.block ['d'] [['e']] [.directive ['f'] []]]]
    parseTokens 2 unevenTokens = .ok ⟨nodes, 2, 2, 2⟩ ∧
      Node.tally Node.isBlock nodes = 3 ∧ groupsEndedBy .lbrace unevenTokens = 3 ∧
      IsGreatest {d | ∃ us, us <+: unevenTokens ∧ closingExcess us = d} 2 ∧
      unevenTokens.count .rbrace = 3 ∧ (2 : Int) = 3 - 3 + 2 ∧
      Node.tally Node.isDirective nodes = 1 + 1 ∧ groupsEndedBy .semicolon unevenTokens = 1 ∧
      groupsEndedBy .rbrace unevenTokens = 1 ∧ endsInGroup unevenTokens = true := by
  intro nodes
  have hparse : parseTokens 2 unevenTokens = .ok ⟨nodes, 2, 2, 2⟩ := rfl
  obtain ⟨hblocks, hgreatest, hunclosed, hdirectives, -⟩ := parseTokens_counts hparse
  exact ⟨hparse, hblocks, rfl, hgreatest, rfl, hunclosed, hdirectives, rfl, rfl, rfl⟩

end SitePreview
