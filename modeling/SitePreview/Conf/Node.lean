import SitePreview.Text.Basic

namespace SitePreview

inductive Node where
  | directive (name : Text) (args : List Text)
  | block (name : Text) (args : List Text) (children : List Node)
  deriving Repr, Inhabited

structure Directive where
  name : Text
  args : List Text
  deriving DecidableEq, Repr

structure Block where
  name : Text
  args : List Text
  children : List Node
  deriving Repr

namespace Node

def directive? : Node → Option Directive
  | directive name args => some ⟨name, args⟩
  | block .. => none

def block? : Node → Option Block
  | directive .. => none
  | block name args children => some ⟨name, args, children⟩

/-- The blocks of a name among the nodes themselves, not below them. -/
def blocksNamed (name : Text) (nodes : List Node) : List Block :=
  (nodes.filterMap block?).filter fun b => b.name = name

def directivesNamed (name : Text) (nodes : List Node) : List Directive :=
  (nodes.filterMap directive?).filter fun d => d.name = name

def firstArg? (name : Text) (nodes : List Node) : Option Text :=
  (directivesNamed name nodes).head?.bind fun d => d.args.head?

/-- Goes down into the first block of each name in turn. -/
def within? : List Text → List Node → Option (List Node)
  | [], nodes => some nodes
  | name :: names, nodes =>
    (blocksNamed name nodes).head?.bind fun b => within? names b.children

end Node

end SitePreview
