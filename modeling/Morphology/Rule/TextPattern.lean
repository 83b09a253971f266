import Morphology.CharacterClass
import Morphology.Error
import Morphology.Rule.AnchoredRegex

/-!
# Text patterns

A text pattern describes a stretch of characters that starts at a given place. It may fit
several stretches; they are told apart by where they end.
-/

namespace Morphology

inductive TextPattern
  | literal (text : List Char)
  /-- Between `min` and `max` characters of a class. -/
  | run (cls : CharacterClass) (min : Nat) (max : Option Nat)
  /-- Between `min` and `max` characters of any kind. -/
  | any (min : Nat) (max : Option Nat)
  | regex (r : AnchoredRegex)

namespace TextPattern

/-- A pattern from a written regular expression. -/
def compile (engine : RegexEngine) (pattern : String) : Except GrammarError TextPattern :=
  match AnchoredRegex.compile? engine pattern with
  | some r => .ok (regex r)
  | none => .error .invalidRegex

/-- All lengths from `min` to `longest`. -/
def lengthsBetween (min longest : Nat) : List Nat :=
  if longest < min then [] else List.range' min (longest - min + 1)

/-- The smaller of two counts, one of which may be unbounded. -/
def atMost (max : Option Nat) (available : Nat) : Nat :=
  match max with
  | none => available
  | some max => min max available

/-- The lengths of the beginnings of a text that fit the pattern, shortest first. -/
def lengths (pattern : TextPattern) (rest : List Char) : List Nat :=
  match pattern with
  | literal text => if text.isPrefixOf rest then [text.length] else []
  | run cls min max =>
    lengthsBetween min ((rest.take (atMost max rest.length)).takeWhile cls.contains).length
  | any min max => lengthsBetween min (atMost max rest.length)
  | regex r => r.prefixLengths rest

end TextPattern

end Morphology
