import SitePreview.Conf.Node
import SitePreview.Conf.Scanner
import SitePreview.Fields.Issue

namespace SitePreview

structure ParseResult where
  nodes : List Node
  unclosedBlocks : Nat
  unmatchedClosers : Nat
  danglingDirectives : Nat
  deriving Repr

namespace ParseResult

def isComplete (r : ParseResult) : Bool :=
  r.unclosedBlocks == 0 && r.unmatchedClosers == 0 && r.danglingDirectives == 0

def isEmpty (r : ParseResult) : Bool := r.nodes.isEmpty

end ParseResult

/-- A block that is still open, with the nodes that stand before it, newest first. -/
structure OpenBlock where
  name : Text
  args : List Text
  before : List Node
  deriving Repr

/-- Nodes of the innermost level, open blocks from the inside out, and the parts of the directive
being read, all newest first. -/
structure Parser where
  level : List Node := []
  blocks : List OpenBlock := []
  parts : List Text := []
  unmatchedClosers : Nat := 0
  danglingDirectives : Nat := 0
  deriving Repr

inductive ParseError where
  /-- A node that is complete has an empty name. -/
  | emptyName
  /-- More blocks would be open at once than there is room for. -/
  | tooDeep
  deriving DecidableEq, Repr

def ParseError.message : ParseError → Text
  | emptyName => IssueCause.emptyText.message
  | tooDeep => "maximum recursion depth exceeded".toList

namespace Parser

/-- The name and the arguments read so far, and none of them left. -/
def takeParts (p : Parser) : Option (Text × List Text) × Parser :=
  match p.parts.reverse with
  | [] => (none, p)
  | name :: args => (some (name, args), { p with parts := [] })

def addDirective (name : Text) (args : List Text) (p : Parser) : Except ParseError Parser :=
  if name = [] then .error .emptyName else .ok { p with level := .directive name args :: p.level }

/-- Each open block takes room until it is closed. -/
def openBlock (room : Nat) (name : Text) (args : List Text) (p : Parser) : Except ParseError Parser :=
  if p.blocks.length < room then
    .ok { p with level := [], blocks := ⟨name, args, p.level⟩ :: p.blocks }
  else .error .tooDeep

def close (p : Parser) : Parser :=
  match p.blocks with
  | [] => { p with unmatchedClosers := p.unmatchedClosers + 1 }
  | b :: bs =>
    { p with level := .block b.name b.args p.level.reverse :: b.before, blocks := bs }

/-- A block is complete, and needs its name, when it is closed. -/
def closeBlock (p : Parser) : Except ParseError Parser :=
  if p.blocks.head?.any fun b => b.name = [] then .error .emptyName else .ok p.close

def feed (room : Nat) (p : Parser) (t : Token) : Except ParseError Parser :=
  match t.part? with
  | some v => .ok { p with parts := v :: p.parts }
  | none =>
    let (group, p) := p.takeParts
    match t, group with
    | .lbrace, some (name, args) => p.openBlock room name args
    | .lbrace, none => .ok p
    | .rbrace, some (name, args) => do
      let p ← p.addDirective name args
      { p with danglingDirectives := p.danglingDirectives + 1 }.closeBlock
    | .rbrace, none => p.closeBlock
    | _, some (name, args) => p.addDirective name args
    | _, none => .ok p

/-- At the end every open block is closed and counted; parts without a mark are dropped. -/
def closeAll : List OpenBlock → List Node → List Node
  | [], level => level.reverse
  | b :: bs, level => closeAll bs (.block b.name b.args level.reverse :: b.before)

def finish (p : Parser) : ParseResult where
  nodes := closeAll p.blocks p.level
  unclosedBlocks := p.blocks.length
  unmatchedClosers := p.unmatchedClosers
  danglingDirectives := p.danglingDirectives + if p.parts.isEmpty then 0 else 1

/-- The blocks that are closed at the end need their names as well. -/
def finishNamed (p : Parser) : Except ParseError ParseResult :=
  if p.blocks.any fun b => b.name = [] then .error .emptyName else .ok p.finish

def feedAll (room : Nat) (p : Parser) (ts : List Token) : Except ParseError Parser :=
  ts.foldlM (feed room) p

end Parser

/-- What tokens are parsed to where so many blocks may be open at once. -/
def parseTokens (room : Nat) (ts : List Token) : Except ParseError ParseResult := do
  (← Parser.feedAll room {} ts).finishNamed

def parseText (room : Nat) (text : Text) : Except ParseError ParseResult :=
  parseTokens room (tokenize text)

end SitePreview
