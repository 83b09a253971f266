import Morphology.Grammar.Basic
import Morphology.Search.Chart
import Morphology.Search.Execution
import Morphology.Search.Index

/-!
# Segmentation

The first part of a search finds the morphs. Morph rules are run at the beginning of the text
and at every place where a morph ends, in the order of the places. Rules that cannot apply
anywhere in the text are set aside beforehand.
-/

namespace Morphology

/-- What a pass over the text or the chart has done. -/
structure PassCounts where
  attempts : Nat := 0
  produced : Nat := 0
  rejected : Nat := 0
  skipped : Nat := 0
deriving DecidableEq

/-- A chart under construction, with the counts of the current pass. -/
structure Progress where
  chart : Chart
  counts : PassCounts := {}

namespace Segmentation

/-- The node of a morph. -/
def node (rule start : Nat) (morph : Morph) : Node where
  start
  stop := morph.stop
  tag := morph.tag
  features := morph.features
  cuts := []
  origin := .morph rule

/-- Runs one rule at a place and adds what it finds. -/
def tryRule (grammar : Grammar) (text : List Char) (position : Nat) (progress : Progress)
    (id : Nat) : Search Progress :=
  match grammar.rules.morphs[id]? with
  | none => pure progress
  | some rule => do
    Search.step
    let morphs ← rule.run text grammar.lexicon position
    let (new, chart) := progress.chart.insertAll (morphs.map (node id position))
    let counts := { progress.counts with
      attempts := progress.counts.attempts + 1
      produced := progress.counts.produced + new }
    return { chart, counts }

/-- Runs the rules that are offered at a place, if the place can be reached. -/
def visit (grammar : Grammar) (text : List Char) (index : MorphIndex) (active : List Nat)
    (progress : Progress) (position : Nat) : Search Progress :=
  if position = 0 || progress.chart.reaches position then
    (index.candidates active text[position]?).foldlM (tryRule grammar text position) progress
  else pure progress

/-- The numbers of the rules that can apply somewhere in a text. -/
def activeRules (grammar : Grammar) (text : List Char) : List Nat :=
  let traits := TextTraits.of text
  grammar.rules.morphs.zipIdx.filterMap fun (rule, id) ↦
    if traits.admits rule then some id else none

/-- Finds the morphs of a text. -/
def run (grammar : Grammar) (text : List Char) : Search Progress :=
  let index := MorphIndex.ofRules grammar.rules.morphs
  let active := activeRules grammar text
  (List.range (text.length + 1)).foldlM (visit grammar text index active)
    { chart := ∅ }

end Segmentation

end Morphology
