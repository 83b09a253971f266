import Morphology.Grammar.Basic
import Morphology.Structure.Unification

/-!
# Building grammars

A builder collects the parts of a grammar and names symbols on the way. Mistakes do not stop it;
they are reported when the grammar is built.
-/

namespace Morphology

structure GrammarBuilder where
  symbols : SymbolTable := ∅
  lexicon : Lexicon := ∅
  rules : Rules := {}
  remarks : List String := []
  /-- The name of the rule that finds the stems of the lexicon, if there is to be one. -/
  lexiconRule : Option String := none
  /-- The first attribute that was given two different values. -/
  conflict : Option String := none

namespace GrammarBuilder

/-- The symbol of a name. -/
def symbol (b : GrammarBuilder) (name : String) : Symbol × GrammarBuilder :=
  let (s, symbols) := b.symbols.intern name
  (s, { b with symbols })

/-- Names the symbols of attributes and atomic values, in the order in which they are written. -/
def internPairs (table : SymbolTable) :
    List (String × String) → List (Symbol × Value) × SymbolTable
  | [] => ([], table)
  | (attr, value) :: rest =>
    let (a, table) := table.intern attr
    let (v, table) := table.intern value
    let (pairs, table) := internPairs table rest
    ((a, .atom v) :: pairs, table)

/-- The attribute of the first pair that contradicts a pair before it. -/
def firstConflict (earlier : List (String × String)) : List (String × String) → Option String
  | [] => none
  | (attr, value) :: rest =>
    if earlier.any fun (a, v) ↦ a == attr && v != value then some attr
    else firstConflict (earlier ++ [(attr, value)]) rest

/-- A structure with atomic values. If the pairs contradict each other it is empty, and the
grammar cannot be built. -/
def features (b : GrammarBuilder) (pairs : List (String × String)) : Structure × GrammarBuilder :=
  let (interned, symbols) := internPairs b.symbols pairs
  match Structure.ofPairs? interned with
  | some s => (s, { b with symbols })
  | none => (Structure.empty, { b with symbols, conflict := b.conflict.or (firstConflict [] pairs) })

/-- Adds a reading of a stem. -/
def addReading (b : GrammarBuilder) (stem : String) (reading : Reading) : GrammarBuilder :=
  { b with lexicon := b.lexicon.insert stem reading }

/-- Adds a reading of a stem from the names of its tag, its attributes and their values. -/
def addLexeme (b : GrammarBuilder) (stem tag : String) (pairs : List (String × String)) :
    GrammarBuilder :=
  let (tag, b) := b.symbol tag
  let (features, b) := b.features pairs
  b.addReading stem { features, tag }

def addMorphRule (b : GrammarBuilder) (rule : MorphRule) : GrammarBuilder :=
  { b with rules := { b.rules with morphs := b.rules.morphs ++ [rule] } }

def addProduction (b : GrammarBuilder) (rule : Production) : GrammarBuilder :=
  { b with rules := { b.rules with productions := b.rules.productions ++ [rule] } }

/-- Asks for a rule that finds the stems of the lexicon, including those added later. -/
def withLexiconRule (b : GrammarBuilder) (name : String) : GrammarBuilder :=
  { b with lexiconRule := some name }

/-- Accepts nodes with a tag as complete analyses. -/
def accept (b : GrammarBuilder) (tag : String) : GrammarBuilder :=
  let (tag, b) := b.symbol tag
  if b.rules.accepted.contains tag then b
  else { b with rules := { b.rules with accepted := b.rules.accepted ++ [tag] } }

def addRemark (b : GrammarBuilder) (line : String) : GrammarBuilder :=
  { b with remarks := b.remarks ++ [line] }

/-- The rules, with the one that finds the stems of the lexicon before all others. -/
def allRules (b : GrammarBuilder) : Rules :=
  match b.lexiconRule with
  | none => b.rules
  | some name =>
    { b.rules with morphs := .ofLexicon name b.lexicon.longestStem :: b.rules.morphs }

/-- Puts the grammar together. A contradiction is reported before anything else. -/
def build (b : GrammarBuilder) : Except GrammarError Grammar :=
  match b.conflict with
  | some attr => .error (.conflictingValues attr)
  | none => (Grammar.make b.symbols b.lexicon b.allRules).map (·.withRemarks b.remarks)

end GrammarBuilder

end Morphology
