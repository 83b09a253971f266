import Morphology.Structure.Basic

/-!
# Productions

A production makes one node out of adjacent ones. Its pattern says which tags the nodes have,
its operations how the structure of the new node comes from theirs.
-/

namespace Morphology

/-- A condition on a tag. -/
inductive TagPattern
  | exactly (tag : Symbol)
  | oneOf (tags : List Symbol)
  | any

def TagPattern.accepts : TagPattern → Symbol → Bool
  | exactly t, tag => t == tag
  | oneOf tags, tag => tags.contains tag
  | any, _ => true

/-- One step in building a structure from the structures of the children. -/
inductive Operation
  /-- Unifies the whole structure of a child. -/
  | child (index : Nat)
  | fixed (features : Structure)
  /-- Copies an attribute of a child, if it is there. -/
  | copy (index : Nat) (attr : Symbol)
  /-- Asks that a child be compatible with a structure; copies nothing. -/
  | check (index : Nat) (features : Structure)
  /-- Asks that two children agree on an attribute, and keeps what they agree on. -/
  | agree (attr : Symbol) (left right : Nat)
  /-- Makes the structure of a child the value of an attribute. -/
  | nest (attr : Symbol) (index : Nat)
  /-- Makes the structures of some children, as a list, the value of an attribute. -/
  | collect (attr : Symbol) (indices : List Nat)

/-- A rule that combines adjacent nodes. Without operations it unifies all structures. -/
structure Production where
  name : String
  pattern : List TagPattern
  result : Symbol
  operations : List Operation

end Morphology
