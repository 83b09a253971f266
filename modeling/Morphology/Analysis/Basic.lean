import Morphology.Analysis.Derivation
import Morphology.Search.Fixpoint

/-!
# Analyses

Analysing a text means searching for all nodes that cover it as a whole and have an accepted tag.
Each of them is an analysis; a text without analyses is unknown, which is no error.
-/

namespace Morphology

/-- What a caller can choose for an analysis. The formats are for the caller's own use; which of
them applies depends on the outcome. -/
structure Options where
  /-- Whether the structures of all analyses are wanted as one list. -/
  asList : Bool := false
  /-- Whether the whole chart is wanted. -/
  retainChart : Bool := false
  /-- The number of steps that an analysis may use, if it is limited. -/
  budget : Option Nat := some 1000000
  resultFormat : String := "%l: %s"
  unknownFormat : String := "%l: unknown"
  errorFormat : String := "%l: error: %e"

/-- A node of the chart, as it is shown. -/
structure ChartEntry where
  node : Nat
  start : Nat
  stop : Nat
  tag : Symbol
  features : Structure
  rule : String
  surface : String
  children : List Nat
  /-- Whether the node is an analysis. -/
  accepting : Bool

/-- A route whose structures contradict each other, as it is shown. -/
structure RejectedRoute where
  rule : String
  start : Nat
  stop : Nat
  children : List Nat

/-- The whole chart, as it is shown. -/
structure ChartReport where
  entries : List ChartEntry
  rejected : List RejectedRoute

structure Analysis where
  text : String
  /-- The analyses, in the order in which they were found. -/
  trees : List Derivation
  /-- The structures of all analyses, if they are wanted. -/
  list : Option Value
  chart : Option ChartReport
  segmentation : PassCounts
  passes : List PassCounts
  steps : Nat

/-- Whether there is no analysis. -/
def Analysis.isUnknown (a : Analysis) : Bool := a.trees.isEmpty

/-- The format for an outcome. -/
def Options.formatFor (options : Options) : Except AnalysisError Analysis → String
  | .ok a => if a.isUnknown then options.unknownFormat else options.resultFormat
  | .error _ => options.errorFormat

namespace Chart

/-- The nodes that are analyses of a text of so many characters. -/
def accepting (chart : Chart) (rules : Rules) (length : Nat) : List Nat :=
  (chart.startingAt 0).filter fun id ↦
    (chart.get? id).any fun node ↦ node.stop == length && rules.accepts node.tag

end Chart

/-- The name of the rule that made a node. -/
def Rules.nameOfOrigin (rules : Rules) : Origin → String
  | .morph rule => (rules.morphs[rule]?.map (·.name)).getD ""
  | .production rule _ => (rules.productions[rule]?.map (·.name)).getD ""

/-- The part of a text that a node covers. -/
def Node.surface (node : Node) (text : List Char) : String :=
  String.ofList (slice text node.start node.stop)

namespace Chart

/-- The derivations of all nodes. Children have smaller numbers than their parents, so that
their derivations are there when they are needed. -/
def derivations (chart : Chart) (rules : Rules) (text : List Char) : Array Derivation :=
  chart.entries.foldl (fun trees (id, node) ↦ trees.push
    { node := id
      start := node.start
      stop := node.stop
      tag := node.tag
      features := node.features
      rule := rules.nameOfOrigin node.origin
      surface := node.surface text
      children := node.children.filterMap fun child ↦ trees[child]? }) #[]

def entry (rules : Rules) (text : List Char) (accepting : List Nat) (id : Nat) (node : Node) :
    ChartEntry where
  node := id
  start := node.start
  stop := node.stop
  tag := node.tag
  features := node.features
  rule := rules.nameOfOrigin node.origin
  surface := node.surface text
  children := node.children
  accepting := accepting.contains id

def rejectedRoute (chart : Chart) (rules : Rules) (route : Route) : RejectedRoute :=
  let start := ((route.nodes.head?.bind chart.get?).map (·.start)).getD 0
  { rule := rules.nameOfOrigin (.production route.rule route.nodes)
    start
    stop := ((route.nodes.getLast?.bind chart.get?).map (·.stop)).getD start
    children := route.nodes }

/-- The chart as it is shown, with the rejected routes in the order in which they were tried. -/
def report (chart : Chart) (rules : Rules) (text : List Char) (rejected : List Route) :
    ChartReport where
  entries := chart.entries.map fun (id, node) ↦
    entry rules text (chart.accepting rules text.length) id node
  rejected := rejected.reverse.map (chart.rejectedRoute rules)

end Chart

namespace Grammar

/-- Searches for all nodes of a text. -/
def search (grammar : Grammar) (text : List Char) :
    Search (PassCounts × Saturation × List PassCounts) := do
  let segmented ← Segmentation.run grammar text
  let (s, passes) ← Saturation.run grammar.rules.productions { chart := segmented.chart }
  return (segmented.counts, s, passes)

/-- Analyses a text. -/
def analyzeWith (grammar : Grammar) (options : Options) (text : String) :
    Except AnalysisError Analysis :=
  let chars := text.toList
  match (grammar.search chars).outcome { limit := options.budget } with
  | (.error e, _) => .error e
  | (.ok (segmentation, s, passes), budget) =>
    let derivations := s.chart.derivations grammar.rules chars
    let trees := (s.chart.accepting grammar.rules chars.length).filterMap (derivations[·]?)
    .ok
      { text
        trees
        list := if options.asList then some (.list (trees.map fun t ↦ .nested t.features)) else none
        chart :=
          if options.retainChart then some (s.chart.report grammar.rules chars s.rejected) else none
        segmentation
        passes
        steps := budget.used }

/-- Analyses a text with the default options. -/
def analyze (grammar : Grammar) (text : String) : Except AnalysisError Analysis :=
  grammar.analyzeWith {} text

end Grammar

end Morphology
