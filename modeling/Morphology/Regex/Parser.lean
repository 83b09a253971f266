import Morphology.Regex.Lexer

/-!
# Trees of regular expressions

Building the tree of an expression from its words, with a stack for the groups and classes that
are still open. Trees that are nested too deeply are refused.
-/

namespace Morphology.Regex

namespace ClassTree

/-- The contents of a class that is still open, latest item first. An operator applies to all
that precedes it in its brackets. -/
structure Open where
  negated : Bool
  items : List ClassTree
  pending : Option (SetOperator × ClassTree) := none

namespace Open

def add (level : Open) (item : ClassTree) : Open := { level with items := item :: level.items }

/-- All that has been read of the class, as one tree. -/
def contents (level : Open) : ClassTree :=
  let right := ofItems level.items.reverse
  match level.pending with
  | none => right
  | some (operator, left) => operation operator left right

def addOperator (level : Open) (operator : SetOperator) : Open :=
  { level with items := [], pending := some (operator, level.contents) }

end Open

end ClassTree

namespace Tree

/-- The contents of a group that is still open, latest item and latest branch first. -/
structure Open where
  flags : FlagSetting := []
  branches : List Tree := []
  items : List Tree := []

namespace Open

def add (level : Open) (item : Tree) : Open := { level with items := item :: level.items }

def addBar (level : Open) : Open :=
  { level with branches := ofItems level.items.reverse :: level.branches, items := [] }

/-- All that has been read of the group, as one tree. -/
def contents (level : Open) : Tree :=
  ofBranches (ofItems level.items.reverse :: level.branches).reverse

/-- Repeats the latest item; flags cannot be repeated. -/
def repeatLast (level : Open) (min : Nat) (max : Option Nat) : Option Open :=
  match level.items with
  | [] | empty :: _ | Tree.flags _ :: _ => none
  | item :: rest => some { level with items := repetition item min max :: rest }

end Open

/-- The groups and classes that are still open, innermost first; the outermost group is the
expression itself. -/
structure Parser where
  group : Open := {}
  outer : List Open := []
  classes : List ClassTree.Open := []

namespace Parser

/-- Adds an item to the innermost group. -/
def add (p : Parser) (item : Tree) : Parser := { p with group := p.group.add item }

/-- Takes one word into account. -/
def step (p : Parser) : Token → Option Parser
  | .atom a => some (p.add (atom a))
  | .flags setting => some (p.add (Tree.flags setting))
  | .bar => some { p with group := p.group.addBar }
  | .repetition min max => (p.group.repeatLast min max).map fun group ↦ { p with group }
  | .groupOpen _ setting =>
    some { p with group := { flags := setting }, outer := p.group :: p.outer }
  | .groupClose =>
    match p.outer with
    | [] => none
    | level :: outer =>
      some { p with group := level.add (Tree.group p.group.flags p.group.contents), outer }
  | .classOpen negated leading =>
    let items := (leading.map fun c ↦ ClassTree.range c c).reverse
    some { p with classes := { negated, items } :: p.classes }
  | .classItem item =>
    match p.classes with
    | [] => none
    | level :: rest => some { p with classes := level.add item :: rest }
  | .classOperator operator =>
    match p.classes with
    | [] => none
    | level :: rest => some { p with classes := level.addOperator operator :: rest }
  | .classClose =>
    match p.classes with
    | [] => none
    | [level] => some { p.add (Tree.bracket level.negated level.contents) with classes := [] }
    | level :: next :: rest =>
      some { p with classes := next.add (.bracket level.negated level.contents) :: rest }

/-- Takes all words into account, one after the other. -/
def run (p : Parser) : List Token → Option Parser
  | [] => some p
  | token :: rest => (p.step token).bind fun p ↦ p.run rest

/-- The tree of the whole expression, when nothing is open any more. -/
def finish (p : Parser) : Option Tree :=
  if p.outer.isEmpty && p.classes.isEmpty then some p.group.contents else none

end Parser

/-- The deepest nesting that is accepted. -/
def nestingLimit : Nat := 250

/-- Whether no two groups have the same name. -/
def namesDiffer (tokens : List Token) : Bool :=
  let names := tokens.filterMap fun
    | .groupOpen name _ => name
    | _ => none
  decide names.Nodup

/-- The tree of a written expression. -/
def parse (text : List Char) : Option Tree := do
  let tokens ← Lexer.tokens text
  let tree ← (← Parser.run {} tokens).finish
  if namesDiffer tokens && tree.nesting ≤ nestingLimit then some tree else none

end Tree

end Morphology.Regex
