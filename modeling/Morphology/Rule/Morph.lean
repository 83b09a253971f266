import Morphology.Rule.TextPattern
import Morphology.Structure.Basic

/-!
# Morph rules

A morph rule is a small program that reads characters from some place on and builds the tag and
the structure of a morph. Programs can branch: every branch is continued with what follows.
-/

namespace Morphology

/-- Where an assigned value comes from. -/
inductive Source
  | constant (value : Value)
  /-- The text of a capture that is closed. -/
  | capture (id : UInt8)
  /-- All text that the program has read so far. -/
  | surface

inductive Instruction
  | read (pattern : TextPattern)
  | openCapture (id : UInt8)
  | closeCapture (id : UInt8)
  /-- Looks the captured text up in the lexicon; the program goes on once per reading. -/
  | lookup (id : UInt8)
  | unify (features : Structure)
  | assign (attr : Symbol) (source : Source)
  | tag (symbol : Symbol)
  /-- Goes on with each of several programs. -/
  | choice (branches : List (List Instruction))

abbrev Program := List Instruction

/-- A program with a name and with the tag of its morphs, unless the program sets one. -/
structure MorphRule where
  name : String
  tag : Option Symbol
  program : Program

namespace MorphRule

/-- The rule that finds every stem of a lexicon whose longest stem has `longest` characters. -/
def ofLexicon (name : String) (longest : Nat) : MorphRule where
  name
  tag := none
  program := [.openCapture 0, .read (.any 1 (some (max longest 1))), .closeCapture 0, .lookup 0]

/-- The literals that a morph must contain, because nothing can bypass them. -/
def requiredLiterals (rule : MorphRule) : List (List Char) :=
  rule.program.filterMap fun
    | .read (.literal text) => if text.isEmpty then none else some text
    | _ => none

/-- The character that every morph starts with, when the program starts with a literal. -/
def firstChar? (rule : MorphRule) : Option Char :=
  match rule.program with
  | .read (.literal text) :: _ => text.head?
  | _ => none

/-- The categories of which a morph must contain a character, because nothing can bypass the
classes that ask for it. -/
def requiredCategories (rule : MorphRule) : List Categories :=
  rule.program.filterMap fun
    | .read (.run cls min _) =>
      if 0 < min && !cls.negated && cls.members.isEmpty && !cls.categories.isEmpty then
        some cls.categories
      else none
    | _ => none

end MorphRule

end Morphology
