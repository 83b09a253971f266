import Morphology.Analysis.Basic
import Morphology.Regex.Engine

/-!
# Sessions

A session holds the grammar that is loaded, if any, and the options for its analyses. The
expressions of the grammar are compiled by the engine in use.
-/

namespace Morphology

structure Session where
  grammar : Option Grammar := none
  options : Options := {}

namespace Session

def ofGrammar (grammar : Grammar) : Session := { grammar := some grammar }

/-- Loads a grammar in place of an earlier one. -/
def load (session : Session) (grammar : Grammar) : Session :=
  { session with grammar := some grammar }

/-- Drops the grammar, if one is loaded. -/
def unload (session : Session) : Session := { session with grammar := none }

def isLoaded (session : Session) : Bool := session.grammar.isSome

/-- The grammar that is loaded. -/
def loaded (session : Session) : Except AnalysisError Grammar :=
  match session.grammar with
  | some grammar => .ok grammar
  | none => .error .notLoaded

def setOptions (session : Session) (options : Options) : Session := { session with options }

/-- Analyses a text with options of its own. -/
def analyzeWith (session : Session) (options : Options) (text : String) :
    Except AnalysisError Analysis :=
  session.loaded.bind fun grammar ↦ grammar.analyzeWith options text

/-- Analyses a text with the options of the session. -/
def analyze (session : Session) (text : String) : Except AnalysisError Analysis :=
  session.analyzeWith session.options text

end Session

end Morphology
