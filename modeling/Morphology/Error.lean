import Morphology.Symbol

/-!
# Errors

Finding no analysis is no error. The errors are of two kinds: a grammar that cannot be put
together, and an analysis that was given up. Both can be due to a defect of a single rule.
-/

namespace Morphology

/-- What is wrong with a rule. -/
inductive Defect
  | undefinedSymbol (symbol : Symbol)
  | unknownCapture (id : UInt8)
  | childOutOfRange (index arity : Nat)
  | missingTag
  | emptyPattern
  | tooDeep (limit : Nat)
deriving DecidableEq

/-- Why a grammar cannot be put together. -/
inductive GrammarError
  | invalidRegex
  | defectiveRule (rule : String) (defect : Defect)
  | duplicateRule (rule : String)
  | undefinedAccepted (tag : Symbol)
  | conflictingValues (attr : String)
deriving DecidableEq

/-- Why an analysis was given up. -/
inductive AnalysisError
  | notLoaded
  | defectiveRule (rule : String) (defect : Defect)
  | budgetExceeded (limit : Nat)
deriving DecidableEq

/-- How messages refer to a symbol that no table knows. -/
def Symbol.reference (s : Symbol) : String := s!"#Symbol({s.id.toNat})"

def Defect.message : Defect → String
  | undefinedSymbol s => s!"reference to undefined symbol {s.reference}"
  | unknownCapture id => s!"capture {id.toNat} is used before it was opened"
  | childOutOfRange index arity =>
    s!"child index {index} is out of range for a pattern of {arity} elements"
  | missingTag => "a morph was produced without a class tag"
  | emptyPattern => "combination pattern is empty"
  | tooDeep limit => s!"attribute-value structure nested deeper than {limit} levels"

/-- A name as messages quote it. -/
def quotedName (name : String) : String := "`" ++ name ++ "`"

def GrammarError.message : GrammarError → String
  | invalidRegex => "invalid regular expression"
  | defectiveRule rule defect => s!"rule {quotedName rule} is invalid: {defect.message}"
  | duplicateRule rule => s!"rule name {quotedName rule} is defined more than once"
  | undefinedAccepted tag => s!"accepting tag {tag.reference} is not a defined symbol"
  | conflictingValues attr => s!"attribute {quotedName attr} is given conflicting values"

def AnalysisError.message : AnalysisError → String
  | notLoaded => "no project is loaded"
  | defectiveRule rule defect =>
    s!"grammar integrity violation in rule {quotedName rule}: {defect.message}"
  | budgetExceeded limit => s!"search aborted after {limit} steps"

end Morphology
