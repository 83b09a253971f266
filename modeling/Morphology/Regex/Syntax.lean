import Morphology.Regex.Basic

/-!
# Syntax of regular expressions

The words and the trees of the written form of regular expressions. Trees keep the flags that
are set along the way, because what a part means depends on the flags in force at its place.
-/

namespace Morphology.Regex

inductive Flag
  | caseInsensitive
  | multiLine
  | dotAll
  | swapGreed
  | unicode
  | crlf
  | verbose
deriving DecidableEq

/-- The flags that are switched on or off at one place. -/
abbrev FlagSetting := List (Flag × Bool)

/-- The classes of characters that have an escape of one letter. -/
inductive Shorthand
  | digit
  | space
  | word
deriving DecidableEq

inductive LineAnchor
  | start
  | stop
deriving DecidableEq

/-- The parts of an expression that stand for one character or for a place. -/
inductive Atom
  /-- A character; `byte` tells that it was written as a byte of two hexadecimal digits. -/
  | literal (c : Char) (byte : Bool)
  | dot
  | line (anchor : LineAnchor)
  | text (anchor : LineAnchor)
  | word (kind : Boundary)
  | shorthand (s : Shorthand) (negated : Bool)
  | property (p : Unicode.Property) (negated : Bool)
deriving DecidableEq

inductive SetOperator
  | intersection
  | difference
  | symmetricDifference
deriving DecidableEq

/-- The contents of a bracketed class. -/
inductive ClassTree
  | range (lo hi : Char)
  | shorthand (s : Shorthand) (negated : Bool)
  | property (p : Unicode.Property) (negated : Bool)
  /-- A named class of basic characters, given by its ranges. -/
  | named (ranges : List (Char × Char)) (negated : Bool)
  | bracket (negated : Bool) (contents : ClassTree)
  | union (items : List ClassTree)
  | operation (operator : SetOperator) (left right : ClassTree)

inductive Token
  | atom (a : Atom)
  | classOpen (negated : Bool) (leading : List Char)
  | classItem (item : ClassTree)
  | classOperator (operator : SetOperator)
  | classClose
  | groupOpen (name : Option (List Char)) (flags : FlagSetting)
  | groupClose
  | flags (setting : FlagSetting)
  | bar
  | repetition (min : Nat) (max : Option Nat)

/-- The tree of a written expression. -/
inductive Tree
  | empty
  | flags (setting : FlagSetting)
  | atom (a : Atom)
  | bracket (negated : Bool) (contents : ClassTree)
  | repetition (body : Tree) (min : Nat) (max : Option Nat)
  | group (flags : FlagSetting) (body : Tree)
  | sequence (items : List Tree)
  | alternation (branches : List Tree)

namespace ClassTree

/-- The union of some items, which is a node of its own only if there are several or none. -/
def ofItems : List ClassTree → ClassTree
  | [item] => item
  | items => union items

mutual

/-- How deeply brackets, unions and operations are nested. -/
def nesting : ClassTree → Nat
  | range .. => 0
  | shorthand .. => 0
  | property .. => 0
  | named .. => 0
  | bracket _ contents => 1 + contents.nesting
  | union [] => 0
  | union (item :: items) => 1 + max item.nesting (nestingOfItems items)
  | operation _ left right => 1 + max left.nesting right.nesting

def nestingOfItems : List ClassTree → Nat
  | [] => 0
  | item :: items => max item.nesting (nestingOfItems items)

end

end ClassTree

namespace Tree

/-- The sequence of some items, which is a node of its own only if there are several. -/
def ofItems : List Tree → Tree
  | [] => empty
  | [item] => item
  | items => sequence items

/-- The alternation of some branches, which is a node of its own only if there are several. -/
def ofBranches : List Tree → Tree
  | [] => empty
  | [branch] => branch
  | branches => alternation branches

mutual

/-- How deeply the parts of a tree are nested. -/
def nesting : Tree → Nat
  | empty => 0
  | flags _ => 0
  | atom _ => 0
  | bracket _ contents => 1 + contents.nesting
  | repetition body _ _ => 1 + body.nesting
  | group _ body => 1 + body.nesting
  | sequence items => 1 + nestingOfItems items
  | alternation branches => 1 + nestingOfItems branches

def nestingOfItems : List Tree → Nat
  | [] => 0
  | item :: items => max item.nesting (nestingOfItems items)

end

end Tree

end Morphology.Regex
