import SitePreview.Proofs.ParserSteps

namespace SitePreview

theorem Token.part?_of_not_mark {t : Token} (h : t.isMark = false) : t.part? = some t.value := by
  cases t with
  | word v | string v => rfl
  | lbrace | rbrace | semicolon => cases h

theorem Token.spell_of_not_mark {group : List Token} (h : ∀ t ∈ group, t.isMark = false) :
    Token.Spell group (group.map Token.value) := by
  rw [Token.Spell, List.map_map]
  exact List.map_congr_left fun t ht => Token.part?_of_not_mark (h t ht)

theorem groupsNamed_of_filled {ts : List Token} (h : ∀ t ∈ ts, t.value ≠ []) : GroupsNamed ts := by
  rintro before first group mark after rfl _ _ _
  exact h first (by simp)

theorem GroupsNamed.of_append {ts us : List Token} (h : GroupsNamed (ts ++ us)) : GroupsNamed ts := by
  rintro before first group mark after rfl
  exact h before first group mark (after ++ us) (by simp)

namespace Nesting

theorem ofTokens_concat (ts : List Token) (t : Token) : ofTokens (ts ++ [t]) = (ofTokens ts).next t := by
  simp [ofTokens]

theorem next_of_part {t : Token} {v : Text} (h : t.part? = some v) (n : Nesting) :
    n.next t = { n with afterPart := true } := by
  cases t with
  | word v | string v => rfl
  | lbrace | rbrace | semicolon => cases h

theorem deepest_le_next (n : Nesting) (t : Token) : n.deepest ≤ (n.next t).deepest := by
  cases t with
  | word v | string v | semicolon | rbrace => exact Nat.le_refl _
  | lbrace =>
    simp only [next]
    split
    · exact Nat.le_max_left _ _
    · exact Nat.le_refl _

theorem deepest_le_append (ts us : List Token) :
    (ofTokens ts).deepest ≤ (ofTokens (ts ++ us)).deepest := by
  induction us using List.reverseRecOn with
  | nil => simp
  | append_singleton us u ih =>
    rw [← List.append_assoc, ofTokens_concat]
    exact Nat.le_trans ih (deepest_le_next _ u)

end Nesting

namespace Parser

variable {room : Nat} {p q : Parser} {t : Token} {ts : List Token} {e : ParseError}

theorem blocks_close (p : Parser) : p.close.blocks = p.blocks.tail := by
  cases hblocks : p.blocks <;> simp [close, hblocks]

theorem isNamed_of_tail (hhead : ∀ b ∈ p.blocks.head?, b.name ≠ [])
    (htail : ∀ b ∈ p.blocks.tail, b.name ≠ []) : p.IsNamed := by
  intro b hb
  cases hblocks : p.blocks with
  | nil => simp [hblocks] at hb
  | cons c cs =>
    rw [hblocks] at hb hhead htail
    rcases List.mem_cons.mp hb with rfl | hb
    · exact hhead b rfl
    · exact htail b hb

theorem Takes.isNamed_of_next (h : Takes room p t q) (hq : q.IsNamed) : p.IsNamed := by
  cases h with
  | part | skip | directive => exact hq
  | opening => exact fun b hb => hq b (List.mem_cons_of_mem _ hb)
  | close _ hhead =>
    rw [IsNamed, blocks_close] at hq
    exact isNamed_of_tail hhead hq
  | dangling _ _ hhead =>
    rw [IsNamed, blocks_close] at hq
    exact isNamed_of_tail hhead hq

theorem isNamed_of_feedAll (h : p.feedAll room ts = .ok q) (hq : q.IsNamed) : p.IsNamed := by
  induction ts generalizing p with
  | nil =>
    cases h
    exact hq
  | cons t ts ih =>
    obtain ⟨r, hr, hrest⟩ := feedAll_cons_eq_ok.mp h
    exact hr.isNamed_of_next (ih hrest)

theorem Takes.parts_named (h : Takes room p t q) (hq : q.IsNamed) (ht : t.isMark = true) (args : List Text) :
    p.parts.reverse ≠ [] :: args := by
  intro hgroup
  have hfilled : p.parts ≠ [] := by
    rintro hparts
    simp [hparts] at hgroup
  cases h with
  | part hv => simp [Token.isMark, hv] at ht
  | skip hparts => exact hfilled hparts
  | close hparts => exact hfilled hparts
  | directive hname hne | dangling hname hne =>
    cases hgroup.symm.trans hname
    exact hne rfl
  | opening hname =>
    cases hgroup.symm.trans hname
    exact hq _ List.mem_cons_self rfl

theorem groupsNamed_of_feedAll (h : feedAll room {} ts = .ok q) (hq : q.IsNamed) : GroupsNamed ts := by
  rintro before first group mark after rfl hbefore hgroup hmark hfirst
  rw [← List.cons_append] at h
  obtain ⟨p, hp, h⟩ := feedAll_append_eq_ok.mp h
  obtain ⟨r, hr, h⟩ := feedAll_append_eq_ok.mp h
  obtain ⟨s, hs, hrest⟩ := feedAll_cons_eq_ok.mp h
  have hparts : p.parts = [] := (parts_eq_nil_iff hp).mpr hbefore
  rw [feedAll_of_spell (Token.spell_of_not_mark hgroup), hparts, List.append_nil] at hr
  cases hr
  refine hs.parts_named (isNamed_of_feedAll hrest hq) hmark (group.map Token.value) ?_
  simp [hfirst]

theorem parts_named_of_groupsNamed (hnamed : GroupsNamed (ts ++ [t])) (h : feedAll room {} ts = .ok p)
    (ht : t.isMark = true) (args : List Text) : p.parts.reverse ≠ [] :: args := by
  intro hblank
  obtain ⟨before, group, rfl, hbefore, hgroup⟩ := feedAll_trail h
  rw [hblank] at hgroup
  have hwords := hgroup.isMark_eq_false
  obtain ⟨first, rest, rfl, hfirst, _⟩ := Token.spell_cons.mp hgroup
  exact hnamed before first rest t [] (by simp) hbefore hwords ht (Token.value_of_part? hfirst)

theorem Takes.isNamed (h : Takes room p t q) (hp : p.IsNamed)
    (hparts : t.isMark = true → ∀ args, p.parts.reverse ≠ [] :: args) : q.IsNamed := by
  cases h with
  | part | skip | directive => exact hp
  | close | dangling =>
    rw [IsNamed, blocks_close]
    exact fun b hb => hp b (List.mem_of_mem_tail hb)
  | @opening name args hgroup =>
    refine List.forall_mem_cons.mpr ⟨?_, hp⟩
    rintro rfl
    exact hparts rfl args hgroup

theorem isNamed_of_groupsNamed (hnamed : GroupsNamed ts) (h : feedAll room {} ts = .ok q) : q.IsNamed := by
  induction ts using List.reverseRecOn generalizing q with
  | nil =>
    cases h
    exact List.forall_mem_nil _
  | append_singleton ts t ih =>
    obtain ⟨p, hp, ht⟩ := feedAll_append_eq_ok.mp h
    exact (feedAll_singleton_eq_ok.mp ht).isNamed (ih hnamed.of_append hp)
      (parts_named_of_groupsNamed hnamed hp)

/-- A parser that has taken the tokens has as many blocks open as their nesting says, and never had more
than there is room for. -/
structure Nests (room : Nat) (ts : List Token) (p : Parser) : Prop where
  opened : (Nesting.ofTokens ts).opened = p.blocks.length
  afterPart : (Nesting.ofTokens ts).afterPart = !p.parts.isEmpty
  within : blockDepth ts ≤ room

theorem isEmpty_parts_of_group {name : Text} {args : List Text} (h : p.parts.reverse = name :: args) :
    p.parts.isEmpty = false := by
  cases hparts : p.parts with
  | nil => simp [hparts] at h
  | cons => rfl

theorem Nests.next (hp : Nests room ts p) (h : Takes room p t q) : Nests room (ts ++ [t]) q := by
  have hopened := hp.opened
  have hafter := hp.afterPart
  have hwithin : (Nesting.ofTokens ts).deepest ≤ room := hp.within
  have hstep := Nesting.ofTokens_concat ts t
  cases h with
  | part hv =>
    rw [Nesting.next_of_part hv] at hstep
    refine ⟨?_, ?_, ?_⟩ <;> simp [blockDepth, hstep, hopened, hwithin]
  | skip hparts ht =>
    have hfree : (Nesting.ofTokens ts).afterPart = false := by simpa [hparts] using hafter
    rcases ht with rfl | rfl <;> refine ⟨?_, ?_, ?_⟩ <;>
      simp [blockDepth, hstep, Nesting.next, hopened, hwithin, hparts, hfree]
  | close hparts =>
    refine ⟨?_, ?_, ?_⟩ <;>
      simp [blockDepth, hstep, Nesting.next, hopened, hwithin, blocks_close, close_parts, hparts]
  | directive =>
    refine ⟨?_, ?_, ?_⟩ <;> simp [blockDepth, hstep, Nesting.next, hopened, hwithin]
  | opening hgroup hroom =>
    have hfilled : (Nesting.ofTokens ts).afterPart = true := by
      rw [hafter, isEmpty_parts_of_group hgroup]
      rfl
    rw [Nesting.next, if_pos hfilled, hopened] at hstep
    refine ⟨by rw [hstep]; rfl, by rw [hstep]; rfl, ?_⟩
    rw [blockDepth, hstep]
    exact Nat.max_le.mpr ⟨hwithin, hroom⟩
  | dangling hgroup =>
    refine ⟨?_, ?_, ?_⟩ <;>
      simp [blockDepth, hstep, Nesting.next, hopened, hwithin, blocks_close, close_parts]

theorem nests_of_feedAll (h : feedAll room {} ts = .ok q) : Nests room ts q :=
  feedAll_induction ⟨rfl, rfl, Nat.zero_le room⟩ (fun _ _ _ _ hp ht => hp.next ht) h

theorem exists_refuses_of_feedAll (h : p.feedAll room ts = .error e) :
    ∃ us t vs q, ts = us ++ t :: vs ∧ p.feedAll room us = .ok q ∧ Refuses room q t e := by
  induction ts generalizing p with
  | nil => cases h
  | cons t ts ih =>
    rw [feedAll_cons] at h
    cases hp : p.feed room t with
    | error e' =>
      rw [hp] at h
      cases h
      exact ⟨[], t, ts, p, rfl, rfl, feed_eq_error.mp hp⟩
    | ok r =>
      rw [hp] at h
      obtain ⟨us, u, vs, q, rfl, hus, hq⟩ := ih h
      exact ⟨t :: us, u, vs, q, rfl, feedAll_cons_eq_ok.mpr ⟨r, feed_eq_ok.mp hp, hus⟩, hq⟩

theorem lt_blockDepth_of_feedAll (h : feedAll room {} ts = .error .tooDeep) : room < blockDepth ts := by
  obtain ⟨us, t, vs, q, rfl, hus, hq⟩ := exists_refuses_of_feedAll h
  have hnests := nests_of_feedAll hus
  cases hq with
  | opening hgroup hfull =>
    have hfilled : (Nesting.ofTokens us).afterPart = true := by
      rw [hnests.afterPart, isEmpty_parts_of_group hgroup]
      rfl
    have hopened : room < blockDepth (us ++ [.lbrace]) := by
      have hcount := hnests.opened
      rw [blockDepth, Nesting.ofTokens_concat, Nesting.next, if_pos hfilled, hcount]
      exact Nat.lt_of_lt_of_le (Nat.lt_succ_of_le hfull) (Nat.le_max_right _ _)
    have hlater := Nesting.deepest_le_append (us ++ [.lbrace]) vs
    rw [List.append_assoc, List.singleton_append] at hlater
    exact Nat.lt_of_lt_of_le hopened hlater

theorem not_groupsNamed_of_feedAll (h : feedAll room {} ts = .error .emptyName) : ¬GroupsNamed ts := by
  intro hnamed
  obtain ⟨us, t, vs, q, rfl, hus, hq⟩ := exists_refuses_of_feedAll h
  rw [← List.singleton_append, ← List.append_assoc] at hnamed
  have hbefore : GroupsNamed (us ++ [t]) := hnamed.of_append
  cases hq with
  | nameless hgroup ht =>
    have hmark : t.isMark = true := by rcases ht with rfl | rfl <;> rfl
    exact parts_named_of_groupsNamed hbefore hus hmark _ hgroup
  | @closing b bs hblocks hname =>
    exact isNamed_of_groupsNamed hbefore.of_append hus b (by simp [hblocks]) hname

end Parser

section Outcome

variable {room : Nat} {ts : List Token}

theorem not_groupsNamed_of_emptyName (h : parseTokens room ts = .error .emptyName) : ¬GroupsNamed ts := by
  rcases exceptBind_eq_error.mp h with hfeed | ⟨q, hq, hfinish⟩
  · exact Parser.not_groupsNamed_of_feedAll hfeed
  · intro hnamed
    have hok := Parser.finishNamed_eq_ok.mpr ⟨Parser.isNamed_of_groupsNamed hnamed hq, rfl⟩
    cases hok.symm.trans hfinish

theorem lt_blockDepth_of_tooDeep (h : parseTokens room ts = .error .tooDeep) : room < blockDepth ts := by
  rcases exceptBind_eq_error.mp h with hfeed | ⟨q, hq, hfinish⟩
  · exact Parser.lt_blockDepth_of_feedAll hfeed
  · unfold Parser.finishNamed at hfinish
    split at hfinish <;> cases hfinish

/-- Tokens are parsed just if their groups have names and there is room for their blocks. -/
theorem exists_parseTokens_iff :
    (∃ r, parseTokens room ts = .ok r) ↔ GroupsNamed ts ∧ blockDepth ts ≤ room := by
  constructor
  · rintro ⟨r, hr⟩
    obtain ⟨q, hq, hnamed, -⟩ := parseTokens_eq_ok.mp hr
    exact ⟨Parser.groupsNamed_of_feedAll hq hnamed, (Parser.nests_of_feedAll hq).within⟩
  · rintro ⟨hnamed, hdepth⟩
    cases hparse : parseTokens room ts with
    | ok r => exact ⟨r, rfl⟩
    | error e =>
      cases e with
      | emptyName => exact absurd hnamed (not_groupsNamed_of_emptyName hparse)
      | tooDeep => exact absurd (lt_blockDepth_of_tooDeep hparse) (Nat.not_lt.mpr hdepth)

theorem exists_error_of_tooDeep (hdepth : room < blockDepth ts) : ∃ e, parseTokens room ts = .error e := by
  cases hparse : parseTokens room ts with
  | ok r => exact absurd (exists_parseTokens_iff.mp ⟨r, hparse⟩).2 (Nat.not_le.mpr hdepth)
  | error e => exact ⟨e, rfl⟩

theorem parseTokens_of_tooDeep (hnamed : GroupsNamed ts) (hdepth : room < blockDepth ts) :
    parseTokens room ts = .error .tooDeep := by
  obtain ⟨e, hparse⟩ := exists_error_of_tooDeep hdepth
  cases e with
  | emptyName => exact absurd hnamed (not_groupsNamed_of_emptyName hparse)
  | tooDeep => exact hparse

theorem parseTokens_eq_emptyName (hdepth : blockDepth ts ≤ room) :
    parseTokens room ts = .error .emptyName ↔ ¬GroupsNamed ts := by
  refine ⟨not_groupsNamed_of_emptyName, fun hnameless => ?_⟩
  cases hparse : parseTokens room ts with
  | ok r => exact absurd (exists_parseTokens_iff.mp ⟨r, hparse⟩).1 hnameless
  | error e =>
    cases e with
    | emptyName => rfl
    | tooDeep => exact absurd (lt_blockDepth_of_tooDeep hparse) (Nat.not_lt.mpr hdepth)

end Outcome

end SitePreview
