import Mathlib.Data.List.DropRight
import SitePreview.Proofs.Derivations

namespace SitePreview

theorem Node.textsOf_append (nodes more : List Node) :
    textsOf (nodes ++ more) = textsOf nodes ++ textsOf more := by
  induction nodes with
  | nil => rfl
  | cons node nodes ih => rw [List.cons_append, textsOf, textsOf, ih, List.append_assoc]

theorem Node.textsOf_reverse_cons (node : Node) (level : List Node) :
    textsOf (node :: level).reverse = textsOf level.reverse ++ node.texts := by
  rw [List.reverse_cons, textsOf_append, textsOf, textsOf, List.append_nil]

namespace Parser

/-- The texts before and at the heads of open blocks, from the outside in. -/
def headTexts : List OpenBlock → List Text
  | [] => []
  | b :: bs => headTexts bs ++ (Node.textsOf b.before.reverse ++ b.name :: b.args)

/-- The texts of a parser in reading order, without the parts of the directive being read. -/
def texts (p : Parser) : List Text := headTexts p.blocks ++ Node.textsOf p.level.reverse

theorem textsOf_closeAll (blocks : List OpenBlock) (level : List Node) :
    Node.textsOf (closeAll blocks level) = headTexts blocks ++ Node.textsOf level.reverse := by
  induction blocks generalizing level with
  | nil => rfl
  | cons b bs ih =>
    rw [closeAll, ih, Node.textsOf_reverse_cons, Node.texts, headTexts]
    simp only [List.append_assoc, List.cons_append]

theorem texts_close (p : Parser) : p.close.texts = p.texts := by
  cases hblocks : p.blocks with
  | nil => simp [close, texts, hblocks]
  | cons b bs =>
    rw [close_of_blocks hblocks, texts, texts, hblocks, headTexts, Node.textsOf_reverse_cons, Node.texts]
    simp only [List.append_assoc, List.cons_append]

theorem texts_directive {p : Parser} {name : Text} {args : List Text} {danglings : Nat} :
    ({ p with
      level := .directive name args :: p.level
      parts := []
      danglingDirectives := danglings } : Parser).texts = p.texts ++ name :: args := by
  rw [texts, Node.textsOf_reverse_cons, Node.texts, texts, List.append_assoc]

theorem Takes.texts {room : Nat} {p q : Parser} {t : Token} (h : Takes room p t q) :
    q.texts ++ q.parts.reverse = p.texts ++ p.parts.reverse ++ t.part?.toList := by
  cases h with
  | part hv => simp [hv, Parser.texts]
  | skip hparts ht => rcases ht with rfl | rfl <;> simp [Token.part?]
  | close hparts _ => simp [close_parts, texts_close, hparts, Token.part?]
  | directive hgroup _ => simp [texts_directive, hgroup, Token.part?]
  | opening hgroup _ =>
    rw [hgroup]
    simp [Parser.texts, headTexts, Node.textsOf, Token.part?]
  | dangling hgroup _ _ =>
    rw [close_parts, texts_close, texts_directive, hgroup]
    simp [Token.part?]

theorem texts_of_feedAll {room : Nat} {ts : List Token} {q : Parser} (h : feedAll room {} ts = .ok q) :
    q.texts ++ q.parts.reverse = ts.filterMap Token.part? := by
  refine feedAll_induction (P := fun ts q => q.texts ++ q.parts.reverse = ts.filterMap Token.part?)
    rfl ?_ h
  intro ts t p q hp ht
  rw [ht.texts, hp, List.filterMap_append]
  cases hv : t.part? <;> simp [hv]

end Parser

theorem Token.Spell.filterMap_part? {group : List Token} {vs : List Text} (h : Spell group vs) :
    group.filterMap part? = vs := by
  have hmap : (group.map part?).filterMap id = (vs.map some).filterMap id := by rw [h]
  simpa [List.filterMap_map] using hmap

theorem rdropWhile_of_trail {before group : List Token} (hbefore : ∀ t ∈ before.getLast?, t.isMark = true)
    (hgroup : ∀ t ∈ group, t.isMark = false) :
    (before ++ group).rdropWhile (fun t => !t.isMark) = before := by
  rw [List.rdropWhile, List.reverse_append, List.dropWhile_append_of_pos (by simpa using hgroup)]
  have hself : before.rdropWhile (fun t => !t.isMark) = before := by
    rw [List.rdropWhile_eq_self_iff]
    intro hne
    simp [hbefore _ (List.getLast?_eq_getLast_of_ne_nil hne)]
  exact hself

theorem textsOf_parseTokens {room : Nat} {ts : List Token} {r : ParseResult} (h : parseTokens room ts = .ok r) :
    Node.textsOf r.nodes = (ts.rdropWhile fun t => !t.isMark).filterMap Token.part? := by
  obtain ⟨q, hq, -, rfl⟩ := parseTokens_eq_ok.mp h
  -- The parts left over are the run after the last mark, and they end the texts on both sides.
  have htexts := Parser.texts_of_feedAll hq
  obtain ⟨before, group, rfl, hbefore, hgroup⟩ := Parser.feedAll_trail hq
  rw [List.filterMap_append, hgroup.filterMap_part?] at htexts
  have hnodes : Node.textsOf q.finish.nodes = q.texts := Parser.textsOf_closeAll _ _
  rw [rdropWhile_of_trail hbefore hgroup.isMark_eq_false, hnodes]
  exact List.append_cancel_right htexts

/-- A stray closing brace, a directive without its semicolon, an opening brace without a word, and an
open block. -/
def damagedTokens : List Token :=
  [.rbrace, .word ['a'], .lbrace, .word ['b'], .rbrace, .lbrace, .string ['c'], .word ['d'], .lbrace,
    .word ['e'], .semicolon, .word ['f']]

theorem textsOf_parseTokens_damaged :
    let nodes : List Node :=
      [.block ['a'] [] [.directive ['b'] []], .block ['c'] [['d']] [.directive ['e'] []]]
    parseTokens 2 damagedTokens = .ok ⟨nodes, 1, 1, 2⟩ ∧
      Node.textsOf nodes = [['a'], ['b'], ['c'], ['d'], ['e']] := by
  intro nodes
  have hparse : parseTokens 2 damagedTokens = .ok ⟨nodes, 1, 1, 2⟩ := rfl
  exact ⟨hparse, textsOf_parseTokens hparse⟩

end SitePreview
