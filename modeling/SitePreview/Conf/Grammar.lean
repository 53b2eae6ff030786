import SitePreview.Conf.Node
import SitePreview.Conf.Token

namespace SitePreview

/-- Words and strings with these values, and no mark among them. -/
def Token.Spell (group : List Token) (values : List Text) : Prop :=
  group.map Token.part? = values.map some

/-- The tokens of one level and the nodes they stand for. A semicolon or an opening brace without a
word before it stands for nothing, and such a brace opens nothing. -/
inductive Derives : List Token → List Node → Prop
  | nil : Derives [] []
  | semicolon {ts nodes} : Derives ts nodes → Derives (.semicolon :: ts) nodes
  | lbrace {ts nodes} : Derives ts nodes → Derives (.lbrace :: ts) nodes
  | directive {group name args ts nodes} : Token.Spell group (name :: args) → Derives ts nodes →
      Derives (group ++ .semicolon :: ts) (.directive name args :: nodes)
  | block {group name args inner children ts nodes} : Token.Spell group (name :: args) →
      Derives inner children → Derives ts nodes →
      Derives (group ++ .lbrace :: (inner ++ .rbrace :: ts)) (.block name args children :: nodes)

/-- A run of words and strings up to a mark, from the mark before it or from the start, never begins
with an empty value. -/
def GroupsNamed (ts : List Token) : Prop :=
  ∀ before first group mark after, ts = before ++ first :: (group ++ mark :: after) →
    (∀ t ∈ before.getLast?, t.isMark = true) → (∀ t ∈ first :: group, t.isMark = false) →
    mark.isMark = true → first.value ≠ []

/-- How tokens are nested: how many blocks are open behind them, how many were open at once at most, and
whether a word or a string stands right before. -/
structure Nesting where
  opened : Nat := 0
  deepest : Nat := 0
  afterPart : Bool := false
  deriving DecidableEq, Repr

namespace Nesting

def next (n : Nesting) : Token → Nesting
  | .word _ | .string _ => { n with afterPart := true }
  | .semicolon => { n with afterPart := false }
  | .lbrace =>
    if n.afterPart then ⟨n.opened + 1, max n.deepest (n.opened + 1), false⟩ else n
  | .rbrace => { n with opened := n.opened - 1, afterPart := false }

def ofTokens (ts : List Token) : Nesting := ts.foldl next {}

end Nesting

/-- How many blocks are open at once at most. -/
def blockDepth (ts : List Token) : Nat := (Nesting.ofTokens ts).deepest

namespace Node

mutual

/-- How many blocks of a node stand in each other at most. -/
def depth : Node → Nat
  | directive .. => 0
  | block _ _ children => depthOf children + 1

def depthOf : List Node → Nat
  | [] => 0
  | node :: nodes => max node.depth (depthOf nodes)

end

mutual

/-- The tokens of a node whose words are spelled in some way. -/
def tokens (spell : Text → Token) : Node → List Token
  | directive name args => (name :: args).map spell ++ [.semicolon]
  | block name args children =>
    (name :: args).map spell ++ .lbrace :: (tokensOf spell children ++ [.rbrace])

def tokensOf (spell : Text → Token) : List Node → List Token
  | [] => []
  | node :: nodes => tokens spell node ++ tokensOf spell nodes

end

mutual

/-- A node has a name, and so has every node in it. -/
def IsNamed : Node → Prop
  | directive name _ => name ≠ []
  | block name _ children => name ≠ [] ∧ AreNamed children

def AreNamed : List Node → Prop
  | [] => True
  | node :: nodes => node.IsNamed ∧ AreNamed nodes

end

mutual

/-- The texts of a node in reading order: its name, its arguments, and those of its children. -/
def texts : Node → List Text
  | directive name args => name :: args
  | block name args children => name :: (args ++ textsOf children)

def textsOf : List Node → List Text
  | [] => []
  | node :: nodes => node.texts ++ textsOf nodes

end

end Node

end SitePreview
