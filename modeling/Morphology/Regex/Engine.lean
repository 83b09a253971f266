import Morphology.Regex.Elaboration
import Morphology.Rule.TextPattern

/-!
# The engine in use

Where rules are read from the outside, this engine compiles their expressions. It knows the usual
ways to write them, with the general categories, the scripts and a choice of the other properties of
characters. Nothing else depends on it: everywhere else the engine is arbitrary.

An expression is matched character by character. After each character the matcher keeps the
expressions that the rest of the text may still match: its partial derivatives. Because of
assertions both the test for the empty match and the derivative depend on the place.
-/

namespace Morphology

namespace Regex

/-- Whether an expression matches nothing at all at a place. -/
def matchesEmpty (place : Place) : Regex → Bool
  | empty => true
  | set _ => false
  | assert a => a.holds place
  | seq r s => r.matchesEmpty place && s.matchesEmpty place
  | alt r s => r.matchesEmpty place || s.matchesEmpty place
  | .repeat r min _ => min == 0 || r.matchesEmpty place

/-- A sequence, without an empty first part. -/
def followedBy (r s : Regex) : Regex := if r = empty then s else seq r s

/-- One repetition less. Where a repetition may match nothing, the ones still needed can do so
at this place, so that none is needed any more. -/
def fewer (r : Regex) (min : Nat) (max : Option Nat) (canSkip : Bool) : Regex :=
  .repeat r (if canSkip then 0 else min - 1) (max.map (· - 1))

/-- What can follow when the expression has consumed `c`, which comes after `before`. -/
def derivatives (before : Option Char) (c : Char) : Regex → List Regex
  | empty => []
  | set s => if s.contains c then [empty] else []
  | assert _ => []
  | seq r s =>
    (r.derivatives before c).map (·.followedBy s) ++
      if r.matchesEmpty ⟨before, some c⟩ then s.derivatives before c else []
  | alt r s => r.derivatives before c ++ s.derivatives before c
  | .repeat r min max =>
    if max = some 0 then []
    else (r.derivatives before c).map
      (·.followedBy (fewer r min max (r.matchesEmpty ⟨before, some c⟩)))

/-- Searches a text for a match that starts with one of `live` or, here or later, with `r`. -/
def search (r : Regex) (live : List Regex) (before : Option Char) : List Char → Bool
  | [] => (r :: live).any (matchesEmpty ⟨before, none⟩)
  | c :: rest =>
    (r :: live).any (matchesEmpty ⟨before, some c⟩) ||
      search r (((r :: live).flatMap (derivatives before c)).eraseDups) (some c) rest

/-- Whether some stretch of the text matches. -/
def isMatch (r : Regex) (text : List Char) : Bool := search r [] none text

/-- Compiles expressions into lists of partial derivatives, taken as a text is read. -/
def engine : RegexEngine where
  compile pattern := (ofText? pattern.toList).map isMatch

end Regex

/-- Anchors an expression for the engine in use. -/
def AnchoredRegex.ofPattern? (pattern : String) : Option AnchoredRegex :=
  compile? Regex.engine pattern

/-- A pattern from an expression for the engine in use. -/
def TextPattern.ofRegex (pattern : String) : Except GrammarError TextPattern :=
  compile Regex.engine pattern

end Morphology
