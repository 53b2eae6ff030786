import Mathlib.Data.List.Induction
import SitePreview.Conf.Grammar
import SitePreview.Conf.Parser
import SitePreview.Proofs.Fallible

namespace SitePreview

namespace Token

theorem value_of_part? {t : Token} {v : Text} (h : t.part? = some v) : t.value = v := by
  cases t with
  | word w | string w => exact Option.some.inj h
  | lbrace | rbrace | semicolon => cases h

theorem spell_nil {group : List Token} : Spell group [] ↔ group = [] := by
  simp [Spell]

theorem spell_cons {group : List Token} {v : Text} {vs : List Text} :
    Spell group (v :: vs) ↔ ∃ t rest, group = t :: rest ∧ t.part? = some v ∧ Spell rest vs := by
  simp only [Spell, List.map_cons, List.map_eq_cons_iff]

theorem Spell.concat {group : List Token} {vs : List Text} {t : Token} {v : Text}
    (h : Spell group vs) (ht : t.part? = some v) : Spell (group ++ [t]) (vs ++ [v]) := by
  rw [Spell, List.map_append, List.map_append, h, List.map_singleton, List.map_singleton, ht]

theorem Spell.isMark_eq_false {group : List Token} {vs : List Text} (h : Spell group vs) :
    ∀ t ∈ group, t.isMark = false := by
  intro t ht
  have hv : t.part? ∈ vs.map some := h ▸ List.mem_map_of_mem ht
  obtain ⟨v, _, hv⟩ := List.mem_map.mp hv
  simp [isMark, ← hv]

end Token

namespace Parser

variable {room : Nat}

/-- A parser takes a token, with room for so many open blocks. A directive needs its name at its mark, and
a block when it is closed. -/
inductive Takes (room : Nat) : Parser → Token → Parser → Prop
  | part {p t v} : t.part? = some v → Takes room p t { p with parts := v :: p.parts }
  | skip {p t} : p.parts = [] → t = .semicolon ∨ t = .lbrace → Takes room p t p
  | close {p} : p.parts = [] → (∀ b ∈ p.blocks.head?, b.name ≠ []) → Takes room p .rbrace p.close
  | directive {p name args} : p.parts.reverse = name :: args → name ≠ [] →
      Takes room p .semicolon { p with level := .directive name args :: p.level, parts := [] }
  | opening {p name args} : p.parts.reverse = name :: args → p.blocks.length < room →
      Takes room p .lbrace
        { p with level := [], blocks := ⟨name, args, p.level⟩ :: p.blocks, parts := [] }
  | dangling {p name args} : p.parts.reverse = name :: args → name ≠ [] →
      (∀ b ∈ p.blocks.head?, b.name ≠ []) →
      Takes room p .rbrace
        ({ p with
          level := .directive name args :: p.level
          parts := []
          danglingDirectives := p.danglingDirectives + 1 } : Parser).close

/-- What keeps a parser from taking a token. -/
inductive Refuses (room : Nat) : Parser → Token → ParseError → Prop
  | nameless {p t args} : p.parts.reverse = [] :: args → t = .semicolon ∨ t = .rbrace →
      Refuses room p t .emptyName
  | closing {p b bs} : p.blocks = b :: bs → b.name = [] → Refuses room p .rbrace .emptyName
  | opening {p name args} : p.parts.reverse = name :: args → room ≤ p.blocks.length →
      Refuses room p .lbrace .tooDeep

theorem close_parts (p : Parser) : p.close.parts = p.parts := by
  unfold close
  split <;> rfl

theorem takeParts_of_empty {p : Parser} (h : p.parts = []) : p.takeParts = (none, p) := by
  simp [takeParts, h]

theorem takeParts_of_group {p : Parser} {name : Text} {args : List Text}
    (h : p.parts.reverse = name :: args) :
    p.takeParts = (some (name, args), { p with parts := [] }) := by
  simp [takeParts, h]

theorem closeBlock_of_named {p : Parser} (h : ∀ b ∈ p.blocks.head?, b.name ≠ []) :
    p.closeBlock = .ok p.close := by
  refine if_neg ?_
  cases hblocks : p.blocks with
  | nil => simp
  | cons b bs => simpa [hblocks] using h

theorem closeBlock_of_nameless {p : Parser} {b : OpenBlock} {bs : List OpenBlock}
    (hblocks : p.blocks = b :: bs) (hname : b.name = []) : p.closeBlock = .error .emptyName :=
  if_pos (by simp [hblocks, hname])

theorem feed_of_part {p : Parser} {t : Token} {v : Text} (h : t.part? = some v) :
    p.feed room t = .ok { p with parts := v :: p.parts } := by
  simp [feed, h]

theorem Takes.feed {p q : Parser} {t : Token} (h : Takes room p t q) : p.feed room t = .ok q := by
  cases h with
  | part hv => exact feed_of_part hv
  | skip hparts ht => rcases ht with rfl | rfl <;> simp [Parser.feed, Token.part?, takeParts_of_empty hparts]
  | close hparts hnamed =>
    simp [Parser.feed, Token.part?, takeParts_of_empty hparts, closeBlock_of_named hnamed]
  | directive hgroup hname => simp [Parser.feed, Token.part?, takeParts_of_group hgroup, addDirective, hname]
  | opening hgroup hroom => simp [Parser.feed, Token.part?, takeParts_of_group hgroup, openBlock, hroom]
  | dangling hgroup hname hnamed =>
    simp only [Parser.feed, Token.part?, takeParts_of_group hgroup, addDirective, if_neg hname]
    exact closeBlock_of_named hnamed

theorem Refuses.feed {p : Parser} {t : Token} {e : ParseError} (h : Refuses room p t e) :
    p.feed room t = .error e := by
  cases h with
  | nameless hgroup ht =>
    rcases ht with rfl | rfl <;>
      simp [Parser.feed, Token.part?, takeParts_of_group hgroup, addDirective, bind, Except.bind]
  | closing hblocks hname =>
    -- A directive before the brace may lack its name too, which is the same fault.
    have hclose (level : List Node) (parts : List Text) (danglings : Nat) :=
      closeBlock_of_nameless (p := { p with level, parts, danglingDirectives := danglings }) hblocks hname
    cases hgroup : p.parts.reverse with
    | nil =>
      have hparts : p.parts = [] := List.reverse_eq_nil_iff.mp hgroup
      simp only [Parser.feed, Token.part?, takeParts_of_empty hparts]
      exact closeBlock_of_nameless hblocks hname
    | cons name args =>
      simp only [Parser.feed, Token.part?, takeParts_of_group hgroup, addDirective]
      split
      · rfl
      · exact hclose _ _ _
  | opening hgroup hroom =>
    simp [Parser.feed, Token.part?, takeParts_of_group hgroup, openBlock, Nat.not_lt.mpr hroom]

theorem takes_or_refuses (room : Nat) (p : Parser) (t : Token) :
    (∃ q, Takes room p t q) ∨ ∃ e, Refuses room p t e := by
  have hparts : p.parts = [] ∨ ∃ name args, p.parts.reverse = name :: args := by
    rw [← List.reverse_eq_nil_iff, ← List.ne_nil_iff_exists_cons]
    exact eq_or_ne _ _
  cases t with
  | word v | string v => exact .inl ⟨_, .part rfl⟩
  | semicolon =>
    rcases hparts with hparts | ⟨name, args, hgroup⟩
    · exact .inl ⟨_, .skip hparts (.inl rfl)⟩
    · by_cases hname : name = []
      · exact .inr ⟨_, .nameless (hname ▸ hgroup) (.inl rfl)⟩
      · exact .inl ⟨_, .directive hgroup hname⟩
  | lbrace =>
    rcases hparts with hparts | ⟨name, args, hgroup⟩
    · exact .inl ⟨_, .skip hparts (.inr rfl)⟩
    · rcases Nat.lt_or_ge p.blocks.length room with hroom | hfull
      · exact .inl ⟨_, .opening hgroup hroom⟩
      · exact .inr ⟨_, .opening hgroup hfull⟩
  | rbrace =>
    by_cases hnamed : ∀ b ∈ p.blocks.head?, b.name ≠ []
    · rcases hparts with hparts | ⟨name, args, hgroup⟩
      · exact .inl ⟨_, .close hparts hnamed⟩
      · by_cases hname : name = []
        · exact .inr ⟨_, .nameless (hname ▸ hgroup) (.inr rfl)⟩
        · exact .inl ⟨_, .dangling hgroup hname hnamed⟩
    · obtain ⟨b, hb, hname⟩ : ∃ b ∈ p.blocks.head?, b.name = [] := by simpa using hnamed
      obtain ⟨bs, hblocks⟩ := List.head?_eq_some_iff.mp hb
      exact .inr ⟨_, .closing hblocks hname⟩

theorem feed_eq_ok {p q : Parser} {t : Token} : p.feed room t = .ok q ↔ Takes room p t q := by
  refine ⟨fun h => ?_, Takes.feed⟩
  rcases takes_or_refuses room p t with ⟨r, hr⟩ | ⟨e, he⟩
  · cases h.symm.trans hr.feed
    exact hr
  · cases h.symm.trans he.feed

theorem feed_eq_error {p : Parser} {t : Token} {e : ParseError} :
    p.feed room t = .error e ↔ Refuses room p t e := by
  refine ⟨fun h => ?_, Refuses.feed⟩
  rcases takes_or_refuses room p t with ⟨r, hr⟩ | ⟨other, hother⟩
  · cases h.symm.trans hr.feed
  · cases h.symm.trans hother.feed
    exact hother

theorem Takes.parts {p q : Parser} {t : Token} (h : Takes room p t q) :
    q.parts = t.part?.elim [] (· :: p.parts) := by
  cases h with
  | part hv => simp [hv]
  | skip hparts ht => rcases ht with rfl | rfl <;> exact hparts
  | close hparts => rw [close_parts, hparts]; rfl
  | directive | opening => rfl
  | dangling => rw [close_parts]; rfl

theorem Takes.isEmpty_parts {p q : Parser} {t : Token} (h : Takes room p t q) : q.parts.isEmpty = t.isMark := by
  rw [h.parts, Token.isMark]
  cases t.part? <;> rfl

theorem feedAll_nil (p : Parser) : p.feedAll room [] = .ok p := rfl

theorem feedAll_cons (p : Parser) (t : Token) (ts : List Token) :
    p.feedAll room (t :: ts) = p.feed room t >>= fun q => q.feedAll room ts := by
  rw [feedAll, List.foldlM_cons]
  rfl

theorem Takes.feedAll_cons {p q : Parser} {t : Token} (h : Takes room p t q) {ts : List Token} :
    p.feedAll room (t :: ts) = q.feedAll room ts := by
  rw [Parser.feedAll_cons, h.feed]
  rfl

theorem feedAll_append {p q : Parser} {ts us : List Token} (h : p.feedAll room ts = .ok q) :
    p.feedAll room (ts ++ us) = q.feedAll room us := by
  rw [feedAll, feedAll] at *
  rw [List.foldlM_append, h]
  rfl

theorem feedAll_append_eq_ok {p q : Parser} {ts us : List Token} :
    p.feedAll room (ts ++ us) = .ok q ↔ ∃ r, p.feedAll room ts = .ok r ∧ r.feedAll room us = .ok q := by
  rw [feedAll, List.foldlM_append, exceptBind_eq_ok]
  rfl

theorem feedAll_cons_eq_ok {p q : Parser} {t : Token} {ts : List Token} :
    p.feedAll room (t :: ts) = .ok q ↔ ∃ r, Takes room p t r ∧ r.feedAll room ts = .ok q := by
  simp only [feedAll_cons, exceptBind_eq_ok, feed_eq_ok]

theorem feedAll_singleton_eq_ok {p q : Parser} {t : Token} :
    p.feedAll room [t] = .ok q ↔ Takes room p t q := by
  simp [feedAll_cons_eq_ok, feedAll_nil]

/-- What holds at the start and after each further token holds of all tokens taken. -/
theorem feedAll_induction {P : List Token → Parser → Prop} (start : P [] {})
    (next : ∀ ts t p q, P ts p → Takes room p t q → P (ts ++ [t]) q) {ts : List Token} {q : Parser}
    (h : feedAll room {} ts = .ok q) : P ts q := by
  induction ts using List.reverseRecOn generalizing q with
  | nil =>
    cases h
    exact start
  | append_singleton ts t ih =>
    obtain ⟨p, hp, ht⟩ := feedAll_append_eq_ok.mp h
    exact next ts t p q (ih hp) (feedAll_singleton_eq_ok.mp ht)

theorem feedAll_of_spell {p : Parser} {group : List Token} {vs : List Text}
    (h : Token.Spell group vs) : p.feedAll room group = .ok { p with parts := vs.reverse ++ p.parts } := by
  induction vs generalizing p group with
  | nil => rw [Token.spell_nil.mp h]; rfl
  | cons v vs ih =>
    obtain ⟨t, rest, rfl, ht, hrest⟩ := Token.spell_cons.mp h
    refine feedAll_cons_eq_ok.mpr ⟨_, .part ht, ?_⟩
    rw [ih hrest, List.reverse_cons, List.append_assoc, List.singleton_append]

/-- No parts are left over just where the tokens end with a mark, if there are any. -/
theorem parts_eq_nil_iff {ts : List Token} {q : Parser} (h : feedAll room {} ts = .ok q) :
    q.parts = [] ↔ ∀ t ∈ ts.getLast?, t.isMark = true := by
  refine feedAll_induction
    (P := fun ts q => q.parts = [] ↔ ∀ t ∈ ts.getLast?, t.isMark = true) (by simp) ?_ h
  intro ts t p q _ ht
  rw [← List.isEmpty_iff, ht.isEmpty_parts, List.getLast?_concat]
  simp

/-- The parts of a parser are the words and strings after the last mark. -/
theorem feedAll_trail {ts : List Token} {q : Parser} (h : feedAll room {} ts = .ok q) :
    ∃ before group, ts = before ++ group ∧ (∀ t ∈ before.getLast?, t.isMark = true) ∧
      Token.Spell group q.parts.reverse := by
  refine feedAll_induction (P := fun ts q => ∃ before group, ts = before ++ group ∧
    (∀ t ∈ before.getLast?, t.isMark = true) ∧ Token.Spell group q.parts.reverse) ?_ ?_ h
  · exact ⟨[], [], rfl, by simp, rfl⟩
  · rintro _ t p q ⟨before, group, rfl, hbefore, hgroup⟩ hstep
    have hparts := hstep.parts
    cases hv : t.part? with
    | some v =>
      refine ⟨before, group ++ [t], by simp, hbefore, ?_⟩
      rw [hparts, hv, Option.elim_some, List.reverse_cons]
      exact hgroup.concat hv
    | none =>
      refine ⟨before ++ group ++ [t], [], by simp, by simp [Token.isMark, hv], ?_⟩
      rw [hparts, hv]
      rfl

def IsNamed (p : Parser) : Prop := ∀ b ∈ p.blocks, b.name ≠ []

theorem finishNamed_eq_ok {p : Parser} {r : ParseResult} :
    p.finishNamed = .ok r ↔ p.IsNamed ∧ p.finish = r := by
  unfold finishNamed
  split
  next hnameless =>
    obtain ⟨b, hb, hname⟩ := List.any_eq_true.mp hnameless
    refine iff_of_false nofun ?_
    rintro ⟨hnamed, -⟩
    exact hnamed b hb (of_decide_eq_true hname)
  next hnameless =>
    have hnamed : p.IsNamed := fun b hb hname => hnameless (List.any_eq_true.mpr ⟨b, hb, by simp [hname]⟩)
    simp [hnamed]

end Parser

theorem parseTokens_eq_ok {room : Nat} {ts : List Token} {r : ParseResult} :
    parseTokens room ts = .ok r ↔
      ∃ q, Parser.feedAll room {} ts = .ok q ∧ q.IsNamed ∧ q.finish = r := by
  simp only [parseTokens, exceptBind_eq_ok, Parser.finishNamed_eq_ok]

end SitePreview
