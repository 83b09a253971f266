import Morphology.Structure.Basic

/-!
# Derivations

A derivation is an analysis with its history: a tree whose leaves are morphs and whose inner
nodes were made by productions.
-/

namespace Morphology

structure Derivation where
  node : Nat
  start : Nat
  stop : Nat
  tag : Symbol
  features : Structure
  /-- The name of the rule that made the node. -/
  rule : String
  /-- The text that the node covers. -/
  surface : String
  children : List Derivation

namespace Derivation

/-- Whether the node is a morph. -/
def isMorph (d : Derivation) : Bool := d.children.isEmpty

/-- The number of characters that the node covers. -/
def length (d : Derivation) : Nat := d.stop - d.start

/-- Whether the node covers no characters. -/
def isEmpty (d : Derivation) : Bool := d.start == d.stop

mutual

/-- The morphs of a derivation, from left to right. -/
def leaves : Derivation → List Derivation
  | ⟨node, start, stop, tag, features, rule, surface, []⟩ =>
    [⟨node, start, stop, tag, features, rule, surface, []⟩]
  | ⟨_, _, _, _, _, _, _, child :: rest⟩ => child.leaves ++ leavesOfAll rest

def leavesOfAll : List Derivation → List Derivation
  | [] => []
  | child :: rest => child.leaves ++ leavesOfAll rest

end

end Derivation

end Morphology
