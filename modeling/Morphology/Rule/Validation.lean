import Morphology.Rule.Flow
import Morphology.Rule.Production

/-!
# Validation of rules

The rules of a grammar must refer to symbols and children that exist, must use captures properly
and must have names of their own. The first rule that does not is reported.
-/

namespace Morphology

/-- All rules of a grammar, and the tags that a complete analysis may have: any, if none is
given. -/
structure Rules where
  morphs : List MorphRule := []
  productions : List Production := []
  accepted : List Symbol := []

/-- Something that a rule refers to. -/
inductive Reference
  | symbol (s : Symbol)
  | child (index : Nat)

namespace Reference

/-- The defect of a reference to something that is not there. -/
def defect? (table : SymbolTable) (arity : Nat) : Reference → Option Defect
  | symbol s => if table.contains s then none else some (.undefinedSymbol s)
  | child index => if index < arity then none else some (.childOutOfRange index arity)

/-- Checks references one after the other. -/
def checkAll (table : SymbolTable) (arity : Nat) (references : List Reference) :
    Except Defect Unit :=
  match references.findSome? (defect? table arity) with
  | some defect => .error defect
  | none => .ok ()

end Reference

mutual

/-- The symbols in an instruction, in the order in which they are written. -/
def Instruction.symbols : Instruction → List Symbol
  | .read _ => []
  | .openCapture _ => []
  | .closeCapture _ => []
  | .lookup _ => []
  | .unify features => features.symbols
  | .assign attr (.constant value) => attr :: value.symbols
  | .assign attr (.capture _) => [attr]
  | .assign attr .surface => [attr]
  | .tag symbol => [symbol]
  | .choice branches => Instruction.symbolsOfBranches branches

def Instruction.symbolsOfProgram : List Instruction → List Symbol
  | [] => []
  | i :: rest => i.symbols ++ Instruction.symbolsOfProgram rest

def Instruction.symbolsOfBranches : List (List Instruction) → List Symbol
  | [] => []
  | branch :: rest =>
    Instruction.symbolsOfProgram branch ++ Instruction.symbolsOfBranches rest

end

namespace MorphRule

/-- The symbols in a rule, in the order in which they are written. -/
def symbols (rule : MorphRule) : List Symbol :=
  rule.tag.toList ++ Instruction.symbolsOfProgram rule.program

/-- Checks the symbols of a rule, then its captures and its tag. -/
def validate (table : SymbolTable) (rule : MorphRule) : Except Defect Unit := do
  Reference.checkAll table 0 (rule.symbols.map .symbol)
  Flow.check rule.program rule.tag.isSome

end MorphRule

def TagPattern.symbols : TagPattern → List Symbol
  | exactly tag => [tag]
  | oneOf tags => tags
  | any => []

/-- What an operation refers to, in the order in which it is checked. -/
def Operation.references : Operation → List Reference
  | child index => [.child index]
  | fixed features => features.symbols.map .symbol
  | copy index attr => [.child index, .symbol attr]
  | check index features => .child index :: features.symbols.map .symbol
  | agree attr left right => [.child left, .child right, .symbol attr]
  | nest attr index => [.child index, .symbol attr]
  | collect attr indices => .symbol attr :: indices.map .child

namespace Production

/-- What a production refers to, in the order in which it is checked. -/
def references (rule : Production) : List Reference :=
  .symbol rule.result :: (rule.pattern.flatMap TagPattern.symbols).map .symbol ++
    rule.operations.flatMap Operation.references

/-- Checks that there is something to combine, and then all references. -/
def validate (table : SymbolTable) (rule : Production) : Except Defect Unit :=
  if rule.pattern.isEmpty then .error .emptyPattern
  else Reference.checkAll table rule.pattern.length rule.references

end Production

namespace Rules

/-- Whether a node with this tag can be a complete analysis. -/
def accepts (rules : Rules) (tag : Symbol) : Bool :=
  rules.accepted.isEmpty || rules.accepted.contains tag

/-- The names of all rules, with what is wrong with them. -/
def outcomes (table : SymbolTable) (rules : Rules) : List (String × Except Defect Unit) :=
  rules.morphs.map (fun rule ↦ (rule.name, rule.validate table)) ++
    rules.productions.map (fun rule ↦ (rule.name, rule.validate table))

/-- Reports the first rule that repeats the name of an earlier one or is defective. -/
def firstError (seen : List String) : List (String × Except Defect Unit) → Except GrammarError Unit
  | [] => .ok ()
  | (name, outcome) :: rest =>
    if seen.contains name then .error (.duplicateRule name)
    else
      match outcome with
      | .error defect => .error (.defectiveRule name defect)
      | .ok () => firstError (name :: seen) rest

/-- Checks the rules, and then that the accepted tags are symbols. -/
def validate (table : SymbolTable) (rules : Rules) : Except GrammarError Unit := do
  firstError [] (rules.outcomes table)
  match rules.accepted.find? fun tag ↦ !table.contains tag with
  | some tag => .error (.undefinedAccepted tag)
  | none => .ok ()

end Rules

end Morphology
