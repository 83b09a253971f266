import Morphology.Lexicon
import Morphology.Rule.Morph
import Morphology.Search.Budget
import Morphology.Structure.Unification

/-!
# Execution of morph rules

Running the program of a morph rule at a place of the text. Wherever the program can go on in
several ways, all of them are followed, one after the other; the morphs come in that order. A
conflict ends one way and no other. Every instruction carried out costs a step, and so does the
end of a way.
-/

namespace Morphology

/-- The deepest structure that a node may have. -/
def depthLimit : Nat := 64

/-- The characters from one place of a text to another. -/
def slice (text : List Char) (start stop : Nat) : List Char := (text.drop start).take (stop - start)

/-- What a morph rule has found. -/
structure Morph where
  stop : Nat
  features : Structure
  tag : Symbol
deriving DecidableEq

/-- A place where a capture starts, and the place where it stops once it is closed. -/
structure Capture where
  id : UInt8
  start : Nat
  stop : Option Nat
deriving DecidableEq

namespace Execution

/-- What does not change while a program runs. -/
structure Setting where
  rule : String
  text : List Char
  lexicon : Lexicon
  start : Nat

/-- How far one way through a program has come. -/
structure State where
  position : Nat
  features : Structure
  tag : Option Symbol
  captures : List Capture
deriving DecidableEq

namespace State

/-- Starts a capture here, in place of an earlier one with the same number. -/
def openCapture (s : State) (id : UInt8) : State :=
  { s with captures := s.captures.filter (·.id != id) ++ [⟨id, s.position, none⟩] }

/-- Stops a capture here. -/
def closeCapture (s : State) (id : UInt8) : Except Defect State :=
  if s.captures.any (·.id == id) then
    .ok { s with captures := s.captures.map fun c ↦
      if c.id == id then { c with stop := some s.position } else c }
  else .error (.unknownCapture id)

/-- The text of a capture that is closed. -/
def captured (s : State) (text : List Char) (id : UInt8) : Except Defect (List Char) :=
  match s.captures.find? (·.id == id) with
  | some ⟨_, start, some stop⟩ => .ok (slice text start stop)
  | _ => .error (.unknownCapture id)

/-- The places to which a pattern can move on. -/
def read (s : State) (text : List Char) (pattern : TextPattern) : List State :=
  (pattern.lengths (text.drop s.position)).map fun n ↦ { s with position := s.position + n }

/-- Adds a structure, unless it contradicts what is known. -/
def unify (s : State) (features : Structure) : Option State :=
  (s.features.unify features).map fun features ↦ { s with features }

/-- Takes over a reading, unless it contradicts what is known. -/
def takeReading (s : State) (reading : Reading) : Option State :=
  (s.unify reading.features).map fun s ↦ { s with tag := some reading.tag }

/-- Gives an attribute a value, unless it contradicts what is known. -/
def assign (s : State) (attr : Symbol) (value : Value) : Option State :=
  (s.features.add? attr value).map fun features ↦ { s with features }

end State

/-- The value that a source stands for. -/
def sourceValue (e : Setting) (s : State) : Source → Except Defect Value
  | .constant value => .ok value
  | .capture id => (s.captured e.text id).map fun text ↦ .text (String.ofList text)
  | .surface => .ok (.text (String.ofList (slice e.text e.start s.position)))

/-- Follows several ways one after the other. -/
def inTurn {α β : Type} (follow : α → Search (List β)) : List α → Search (List β)
  | [] => pure []
  | a :: rest => do
    let found ← follow a
    return found ++ (← inTurn follow rest)

/-- The end of a way: a morph, which must have a tag and must not be too deep. -/
def finish (e : Setting) (s : State) : Search (List Morph) := do
  Search.step
  match s.tag with
  | none => Search.fail e.rule .missingTag
  | some tag =>
    if depthLimit < s.features.depth then Search.fail e.rule (.tooDeep depthLimit)
    else return [{ stop := s.position, features := s.features, tag }]

mutual

/-- Carries an instruction out and goes on with `next` in every way there is. -/
def runInstruction (e : Setting) (s : State) (next : State → Search (List Morph)) :
    Instruction → Search (List Morph)
  | .read pattern => do
    Search.step
    inTurn next (s.read e.text pattern)
  | .openCapture id => do
    Search.step
    next (s.openCapture id)
  | .closeCapture id => do
    Search.step
    next (← Search.orFail e.rule (s.closeCapture id))
  | .lookup id => do
    Search.step
    let stem ← Search.orFail e.rule (s.captured e.text id)
    inTurn next ((e.lexicon.readings (String.ofList stem)).filterMap s.takeReading)
  | .unify features => do
    Search.step
    inTurn next (s.unify features).toList
  | .assign attr source => do
    Search.step
    let value ← Search.orFail e.rule (sourceValue e s source)
    inTurn next (s.assign attr value).toList
  | .tag symbol => do
    Search.step
    next { s with tag := some symbol }
  | .choice branches => do
    Search.step
    runBranches e s next branches

/-- Carries a program out and then goes on with `next`. -/
def runProgram (e : Setting) (s : State) (next : State → Search (List Morph)) :
    List Instruction → Search (List Morph)
  | [] => next s
  | i :: rest => runInstruction e s (fun s ↦ runProgram e s next rest) i

/-- Carries each of several programs out, from the same state, and then goes on with `next`. -/
def runBranches (e : Setting) (s : State) (next : State → Search (List Morph)) :
    List (List Instruction) → Search (List Morph)
  | [] => pure []
  | branch :: rest => do
    let found ← runProgram e s next branch
    return found ++ (← runBranches e s next rest)

end

end Execution

/-- All morphs that a rule finds at a place of a text. -/
def MorphRule.run (rule : MorphRule) (text : List Char) (lexicon : Lexicon) (start : Nat) :
    Search (List Morph) :=
  let e : Execution.Setting := { rule := rule.name, text, lexicon, start }
  let s : Execution.State := { position := start, features := .empty, tag := rule.tag, captures := [] }
  Execution.runProgram e s (Execution.finish e) rule.program

end Morphology
