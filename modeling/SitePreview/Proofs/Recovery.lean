import SitePreview.Proofs.Derivations

namespace SitePreview

/-- The tokens with a semicolon before each closing brace that directly follows a word or a string. The
flag says whether one stands before the first token. -/
def terminated : Bool → List Token → List Token
  | _, [] => []
  | true, .rbrace :: ts => .semicolon :: .rbrace :: terminated false ts
  | _, t :: ts => t :: terminated (!t.isMark) ts

/-- The tokens with the punctuation that is missing, where so many closing braces are. -/
def repaired (ts : List Token) (missing : Nat) : List Token :=
  terminated false ts ++ List.replicate missing .rbrace

theorem terminated_cons {afterPart : Bool} {t : Token} (h : afterPart = true → t ≠ .rbrace)
    (ts : List Token) : terminated afterPart (t :: ts) = t :: terminated (!t.isMark) ts := by
  rw [terminated]
  rintro hafter rfl
  exact h hafter rfl

namespace Parser

def settled (p : Parser) : Parser := { p with danglingDirectives := 0 }

variable {room : Nat} {p q : Parser} {t : Token} {ts : List Token}

theorem settled_close (p : Parser) : p.close.settled = p.settled.close := by
  cases hblocks : p.blocks <;> simp [close, settled, hblocks]

/-- A token that needs no semicolon before it is taken in the same way. -/
theorem Takes.settled_of_plain (h : Takes room p t q) (hplain : p.parts ≠ [] → t ≠ .rbrace) :
    Takes room p.settled t q.settled := by
  cases h with
  | part hv => exact .part hv
  | skip hparts ht => exact .skip hparts ht
  | close hparts hnamed =>
    rw [settled_close]
    exact .close hparts hnamed
  | directive hgroup hname => exact .directive hgroup hname
  | opening hgroup hroom => exact .opening hgroup hroom
  | dangling hgroup hname hnamed =>
    refine absurd rfl (hplain ?_)
    intro hparts
    simp [hparts] at hgroup

/-- Behind a semicolon a closing brace only closes, and the parts before it have ended. -/
theorem Takes.settled_of_closing (h : Takes room p .rbrace q) (hparts : p.parts ≠ []) :
    p.settled.feedAll room (.semicolon :: .rbrace :: ts) = q.settled.feedAll room ts := by
  cases h with
  | part hv => cases hv
  | skip hempty ht => exact absurd hempty hparts
  | close hempty => exact absurd hempty hparts
  | @dangling name args hgroup hname hnamed =>
    have hend : Takes room p.settled .semicolon _ := .directive hgroup hname
    have hclose : Takes room ⟨.directive name args :: p.level, p.blocks, [], p.unmatchedClosers, 0⟩ .rbrace _ :=
      .close rfl hnamed
    rw [hend.feedAll_cons, settled_close]
    exact hclose.feedAll_cons

theorem Takes.feedAll_terminated (h : Takes room p t q) :
    p.settled.feedAll room (terminated (!p.parts.isEmpty) (t :: ts)) =
      q.settled.feedAll room (terminated (!q.parts.isEmpty) ts) := by
  rw [h.isEmpty_parts]
  by_cases hclosing : p.parts ≠ [] ∧ t = .rbrace
  · obtain ⟨hparts, rfl⟩ := hclosing
    have hflag : (!p.parts.isEmpty) = true := by simpa using hparts
    rw [hflag]
    exact h.settled_of_closing hparts
  · have hplain : p.parts ≠ [] → t ≠ .rbrace := fun hparts ht => hclosing ⟨hparts, ht⟩
    rw [terminated_cons (by simpa using hplain)]
    exact (h.settled_of_plain hplain).feedAll_cons

theorem feedAll_terminated (h : p.feedAll room ts = .ok q) :
    p.settled.feedAll room (terminated (!p.parts.isEmpty) ts) = .ok q.settled := by
  induction ts generalizing p with
  | nil =>
    cases h
    rfl
  | cons t ts ih =>
    obtain ⟨r, hr, hq⟩ := feedAll_cons_eq_ok.mp h
    rw [hr.feedAll_terminated]
    exact ih hq

/-- As many closing braces as there are open blocks close them all, as the end of the tokens does. -/
theorem feedAll_closers (hparts : p.parts = []) (hnamed : p.IsNamed) :
    p.feedAll room (List.replicate p.blocks.length .rbrace) =
      .ok { p with level := (closeAll p.blocks p.level).reverse, blocks := [] } := by
  obtain ⟨level, blocks, parts, closers, danglings⟩ := p
  cases hparts
  induction blocks generalizing level with
  | nil => simp [closeAll, feedAll_nil]
  | cons b bs ih =>
    obtain ⟨hname, hrest⟩ := List.forall_mem_cons.mp hnamed
    rw [List.length_cons, List.replicate_succ, feedAll_close hname]
    exact ih _ hrest

end Parser

/-- Tokens that end with a mark give the same nodes once they have the punctuation that is missing, and
then no damage is left but the closing braces that close nothing. -/
theorem parseTokens_repaired {room : Nat} {ts : List Token} {r : ParseResult} (h : parseTokens room ts = .ok r)
    (hend : ∀ t ∈ ts.getLast?, t.isMark = true) :
    parseTokens room (repaired ts r.unclosedBlocks) = .ok ⟨r.nodes, 0, r.unmatchedClosers, 0⟩ := by
  obtain ⟨q, hq, hnamed, rfl⟩ := parseTokens_eq_ok.mp h
  have hparts : q.parts = [] := (Parser.parts_eq_nil_iff hq).mpr hend
  have hterminated : Parser.feedAll room {} (terminated false ts) = .ok q.settled :=
    Parser.feedAll_terminated hq
  have hclosers : q.settled.feedAll room (List.replicate q.finish.unclosedBlocks .rbrace) = _ :=
    Parser.feedAll_closers hparts hnamed
  refine parseTokens_eq_ok.mpr ⟨_, (Parser.feedAll_append hterminated).trans hclosers, ?_, ?_⟩
  · exact List.forall_mem_nil _
  · simp [Parser.finish, Parser.closeAll, Parser.settled, hparts]

/-- Three kinds of damage, two of them within an open block. -/
theorem parseTokens_repaired_threeDamages :
    let ts : List Token :=
      [.rbrace, .word ['a'], .lbrace, .word ['b'], .rbrace, .string ['c'], .lbrace, .word ['d'], .lbrace,
        .lbrace, .word ['e'], .semicolon]
    let nodes : List Node :=
      [.block ['a'] [] [.directive ['b'] []],
        .block ['c'] [] [.block ['d'] [] [.directive ['e'] []]]]
    parseTokens 2 ts = .ok ⟨nodes, 2, 1, 1⟩ ∧ (∀ t ∈ ts.getLast?, t.isMark = true) ∧
      repaired ts 2 =
        [.rbrace, .word ['a'], .lbrace, .word ['b'], .semicolon, .rbrace, .string ['c'], .lbrace,
          .word ['d'], .lbrace, .lbrace, .word ['e'], .semicolon, .rbrace, .rbrace] ∧
      parseTokens 2 (repaired ts 2) = .ok ⟨nodes, 0, 1, 0⟩ := by
  intro ts nodes
  have hparse : parseTokens 2 ts = .ok ⟨nodes, 2, 1, 1⟩ := rfl
  have hend : ∀ t ∈ ts.getLast?, t.isMark = true := by simp [ts, Token.isMark, Token.part?]
  exact ⟨hparse, hend, rfl, parseTokens_repaired hparse hend⟩

end SitePreview
