import Morphology.Increasing
import Morphology.Rule.Validation

/-!
# Rule indexes

Most rules cannot apply at most places. Morph rules that start with a literal are filed under
its first character, productions under the tags that their first child can have; the rest is
tried everywhere. What is offered at a place comes in the order of the rules.
-/

namespace Morphology

/-- Files a rule under a key, behind the rules that are filed there. -/
def fileUnder {α : Type} [DecidableEq α] (key : α) (id : Nat) :
    List (α × List Nat) → List (α × List Nat)
  | [] => [(key, [id])]
  | (k, ids) :: rest =>
    if k = key then (k, ids ++ [id]) :: rest
    else (k, ids) :: fileUnder key id rest

/-- The rules filed under a key. -/
def filed {α : Type} [DecidableEq α] (table : List (α × List Nat)) (key : α) : List Nat :=
  ((table.find? fun entry ↦ entry.1 = key).map (·.2)).getD []

/-- Files a rule under a key, unless it is the last rule filed there. -/
def fileOnce {α : Type} [DecidableEq α] (key : α) (id : Nat) (table : List (α × List Nat)) :
    List (α × List Nat) :=
  if (filed table key).getLast? = some id then table else fileUnder key id table

/-! ## Morph rules -/

/-- What the characters of a text, taken together, say about the rules that can apply. -/
structure TextTraits where
  text : List Char
  categories : Categories

def TextTraits.of (text : List Char) : TextTraits where
  text
  categories := text.foldl (fun s c ↦ s.union (.ofChar c)) {}

/-- Whether a text occurs somewhere in another one. -/
def occursIn (part : List Char) : List Char → Bool
  | [] => part.isEmpty
  | c :: rest => part.isPrefixOf (c :: rest) || occursIn part rest

/-- Whether a text has everything that the morphs of a rule must contain. -/
def TextTraits.admits (traits : TextTraits) (rule : MorphRule) : Bool :=
  rule.firstChar?.all traits.text.contains &&
    rule.requiredLiterals.all (occursIn · traits.text) &&
    rule.requiredCategories.all traits.categories.meets

structure MorphIndex where
  /-- The rules that do not start with a literal. -/
  everywhere : List Nat := []
  byFirstChar : List (Char × List Nat) := []

namespace MorphIndex

/-- Files a rule with its number. -/
def add (index : MorphIndex) (rule : MorphRule) (id : Nat) : MorphIndex :=
  match rule.firstChar? with
  | some c => { index with byFirstChar := fileUnder c id index.byFirstChar }
  | none => { index with everywhere := index.everywhere ++ [id] }

def ofRules (rules : List MorphRule) : MorphIndex :=
  rules.zipIdx.foldl (fun index (rule, id) ↦ index.add rule id) {}

/-- The rules that start with the character that follows a place. -/
def startingWith (index : MorphIndex) : Option Char → List Nat
  | some c => filed index.byFirstChar c
  | none => []

/-- The active rules to try at a place, given the character that follows it. -/
def candidates (index : MorphIndex) (active : List Nat) (next : Option Char) : List Nat :=
  inOrder ((index.everywhere ++ index.startingWith next).filter active.contains)

end MorphIndex

/-! ## Productions -/

structure ProductionIndex where
  /-- The productions whose first child can have any tag. -/
  everywhere : List Nat := []
  byFirstTag : List (Symbol × List Nat) := []

namespace ProductionIndex

/-- Files a production with its number. -/
def add (index : ProductionIndex) (rule : Production) (id : Nat) : ProductionIndex :=
  match rule.pattern.head? with
  | some (.exactly tag) => { index with byFirstTag := fileUnder tag id index.byFirstTag }
  | some (.oneOf tags) =>
    { index with byFirstTag := tags.foldl (fun table tag ↦ fileOnce tag id table) index.byFirstTag }
  | some .any => { index with everywhere := index.everywhere ++ [id] }
  | none => index

def ofRules (rules : List Production) : ProductionIndex :=
  rules.zipIdx.foldl (fun index (rule, id) ↦ index.add rule id) {}

/-- The productions whose first child can have this tag. -/
def candidates (index : ProductionIndex) (tag : Symbol) : List Nat :=
  inOrder (filed index.byFirstTag tag ++ index.everywhere)

end ProductionIndex

end Morphology
