import Morphology.Analysis.Basic
import Morphology.Analysis.Derivation
import Morphology.CharacterClass
import Morphology.Error
import Morphology.Grammar.Basic
import Morphology.Grammar.Builder
import Morphology.Increasing
import Morphology.Lexicon
import Morphology.Listable
import Morphology.Proofs.Analysis.Account
import Morphology.Proofs.Analysis.Beginnings
import Morphology.Proofs.Analysis.Boundaries
import Morphology.Proofs.Analysis.Completeness
import Morphology.Proofs.Analysis.Cuts
import Morphology.Proofs.Analysis.DefinedSymbols
import Morphology.Proofs.Analysis.Depth
import Morphology.Proofs.Analysis.Extension
import Morphology.Proofs.Analysis.Leaves
import Morphology.Proofs.Analysis.NaiveSaturation
import Morphology.Proofs.Analysis.Nesting
import Morphology.Proofs.Analysis.OrderIndependence
import Morphology.Proofs.Analysis.Outcome
import Morphology.Proofs.Analysis.StepLimit
import Morphology.Proofs.Analysis.Termination
import Morphology.Proofs.Analysis.Transfer
import Morphology.Proofs.Analysis.Trees
import Morphology.Proofs.Grammar.Calls
import Morphology.Proofs.Grammar.Conflicts
import Morphology.Proofs.Grammar.Interning
import Morphology.Proofs.Grammar.Numbering
import Morphology.Proofs.Grammar.Readings
import Morphology.Proofs.Grammar.Reordering
import Morphology.Proofs.Grammar.Stems
import Morphology.Proofs.Grammar.Validity
import Morphology.Proofs.Grammar.WellFormed
import Morphology.Proofs.Regex.Acceptance
import Morphology.Proofs.Regex.Beginnings
import Morphology.Proofs.Regex.ByteLengths
import Morphology.Proofs.Regex.Expression
import Morphology.Proofs.Regex.Letters
import Morphology.Proofs.Regex.Promises
import Morphology.Proofs.Rule.Flow
import Morphology.Proofs.Rule.Mentions
import Morphology.Proofs.Rule.Paths
import Morphology.Proofs.Rule.TextPattern
import Morphology.Proofs.Search.Agreement
import Morphology.Proofs.Search.AllRoutes
import Morphology.Proofs.Search.Bounds
import Morphology.Proofs.Search.Captures
import Morphology.Proofs.Search.Chart
import Morphology.Proofs.Search.Combination
import Morphology.Proofs.Search.Contribution
import Morphology.Proofs.Search.Derivability
import Morphology.Proofs.Search.Flow
import Morphology.Proofs.Search.Gating
import Morphology.Proofs.Search.History
import Morphology.Proofs.Search.Index
import Morphology.Proofs.Search.Inheritance
import Morphology.Proofs.Search.Justification
import Morphology.Proofs.Search.Machine
import Morphology.Proofs.Search.Meaning
import Morphology.Proofs.Search.Metering
import Morphology.Proofs.Search.MorphResults
import Morphology.Proofs.Search.Nesting
import Morphology.Proofs.Search.PartialRoutes
import Morphology.Proofs.Search.Passes
import Morphology.Proofs.Search.PlainSegmentation
import Morphology.Proofs.Search.Ranges
import Morphology.Proofs.Search.Rejections
import Morphology.Proofs.Search.ReorderedSaturation
import Morphology.Proofs.Search.ReorderedSegmentation
import Morphology.Proofs.Search.Rounds
import Morphology.Proofs.Search.Route
import Morphology.Proofs.Search.RouteOrder
import Morphology.Proofs.Search.Saturation
import Morphology.Proofs.Search.Segmentation
import Morphology.Proofs.Search.SharedWays
import Morphology.Proofs.Search.Stages
import Morphology.Proofs.Search.ThreadRanges
import Morphology.Proofs.Search.Threads
import Morphology.Proofs.Search.Ways
import Morphology.Proofs.Structure.Atoms
import Morphology.Proofs.Structure.Canonical
import Morphology.Proofs.Structure.Depth
import Morphology.Proofs.Structure.Joins
import Morphology.Proofs.Structure.Lookup
import Morphology.Proofs.Structure.Pairs
import Morphology.Proofs.Structure.Sharing
import Morphology.Proofs.Structure.Subsumption
import Morphology.Proofs.Structure.Symbols
import Morphology.Proofs.Text.Stretch
import Morphology.Regex.Basic
import Morphology.Regex.CharSet
import Morphology.Regex.Elaboration
import Morphology.Regex.Engine
import Morphology.Regex.Lexer
import Morphology.Regex.Parser
import Morphology.Regex.Syntax
import Morphology.Rule.AnchoredRegex
import Morphology.Rule.Flow
import Morphology.Rule.Morph
import Morphology.Rule.Production
import Morphology.Rule.TextPattern
import Morphology.Rule.Validation
import Morphology.Search.Budget
import Morphology.Search.Chart
import Morphology.Search.Combination
import Morphology.Search.Execution
import Morphology.Search.Fixpoint
import Morphology.Search.Index
import Morphology.Search.Inheritance
import Morphology.Search.Route
import Morphology.Search.Saturation
import Morphology.Search.Segmentation
import Morphology.Search.Universe
import Morphology.Session
import Morphology.Structure.Basic
import Morphology.Structure.Material
import Morphology.Structure.Printer
import Morphology.Structure.Trait
import Morphology.Structure.Unification
import Morphology.Symbol
import Morphology.Unicode.BinaryProperty
import Morphology.Unicode.CaseFolding
import Morphology.Unicode.GeneralCategory
import Morphology.Unicode.Kind
import Morphology.Unicode.Property
import Morphology.Unicode.RunTable
import Morphology.Unicode.Script
