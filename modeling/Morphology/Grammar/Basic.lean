import Morphology.Lexicon
import Morphology.Rule.Validation

/-!
# Grammars

A grammar is a symbol table, a lexicon and rules that fit together. It is checked once, when it
is put together, and only read from then on.
-/

namespace Morphology

/-- The symbols of a reading, its tag first. -/
def Reading.symbols (reading : Reading) : List Symbol := reading.tag :: reading.features.symbols

/-- The name under which errors mention the readings of a stem. -/
def entryName (stem : String) : String := "lexicon entry " ++ quotedName stem

/-- Checks that the readings of a lexicon use no symbols but those of the table. -/
def Lexicon.validate (table : SymbolTable) (lexicon : Lexicon) : Except GrammarError Unit :=
  let undefined := lexicon.toList.findSome? fun (stem, reading) ↦
    (reading.symbols.find? fun s ↦ !table.contains s).map (stem, ·)
  match undefined with
  | some (stem, s) => .error (.defectiveRule (entryName stem) (.undefinedSymbol s))
  | none => .ok ()

/-- Symbols, lexicon and rules that fit together. -/
structure Grammar where
  symbols : SymbolTable
  lexicon : Lexicon
  rules : Rules
  /-- Free remarks about the grammar. -/
  remarks : List String := []
  rules_valid : rules.validate symbols = .ok ()
  lexicon_valid : lexicon.validate symbols = .ok ()

namespace Grammar

/-- Puts a grammar together. What is wrong with the rules is reported before what is wrong with
the lexicon. -/
def make (symbols : SymbolTable) (lexicon : Lexicon) (rules : Rules) :
    Except GrammarError Grammar :=
  match rules_valid : rules.validate symbols with
  | .error e => .error e
  | .ok () =>
    match lexicon_valid : lexicon.validate symbols with
    | .error e => .error e
    | .ok () => .ok { symbols, lexicon, rules, rules_valid, lexicon_valid }

def withRemarks (grammar : Grammar) (remarks : List String) : Grammar := { grammar with remarks }

end Grammar

end Morphology
