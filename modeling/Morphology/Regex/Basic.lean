import Morphology.Regex.CharSet

/-!
# Regular expressions

Expressions over characters with counted repetition and with assertions about the place between
two characters. An expression is matched against a stretch of a text; assertions also look at
the characters next to a place, so that matching depends on what surrounds the stretch.
-/

namespace Morphology

namespace Regex

/-- The characters on both sides of a place, absent at the ends of the text. -/
structure Place where
  before : Option Char
  after : Option Char
deriving DecidableEq

/-- The conditions on word parts before and after a place. -/
inductive Boundary
  | edge
  | inner
  | start
  | stop
  | startHalf
  | stopHalf
deriving DecidableEq

inductive Assertion
  | textStart
  | textEnd
  /-- A line starts here; with `crlf` a carriage return ends lines, too, but not twice. -/
  | lineStart (crlf : Bool)
  | lineEnd (crlf : Bool)
  /-- A boundary of words, which consist of word parts of all scripts or of basic ones only. -/
  | word (kind : Boundary) (allScripts : Bool)
deriving DecidableEq

def Boundary.holds (before after : Bool) : Boundary → Bool
  | edge => before != after
  | inner => before == after
  | start => !before && after
  | stop => before && !after
  | startHalf => !before
  | stopHalf => !after

/-- Whether there is a character and words consist of characters like it. -/
def isWordPart (allScripts : Bool) (c : Option Char) : Bool :=
  c.any fun c ↦ Unicode.isWordPart c && (allScripts || Unicode.isAscii c)

/-- Whether an assertion is true of a place. -/
def Assertion.holds (place : Place) : Assertion → Bool
  | textStart => place.before == none
  | textEnd => place.after == none
  | lineStart false => place.before == none || place.before == some '\n'
  | lineStart true =>
    place.before == none || place.before == some '\n' ||
      (place.before == some '\r' && place.after != some '\n')
  | lineEnd false => place.after == none || place.after == some '\n'
  | lineEnd true =>
    place.after == none || place.after == some '\r' ||
      (place.after == some '\n' && place.before != some '\r')
  | word kind allScripts =>
    kind.holds (isWordPart allScripts place.before) (isWordPart allScripts place.after)

end Regex

inductive Regex
  | empty
  | set (s : Regex.CharSet)
  | assert (a : Regex.Assertion)
  | seq (r s : Regex)
  | alt (r s : Regex)
  /-- At least `min` and, where there is a maximum, at most `max` matches in a row. -/
  | repeat (r : Regex) (min : Nat) (max : Option Nat)
deriving DecidableEq

namespace Regex

/-- The sequence of some expressions. -/
def seqs : List Regex → Regex
  | [] => empty
  | [r] => r
  | r :: rest => seq r (seqs rest)

/-- The alternation of some expressions; of none, an expression without matches. -/
def alts : List Regex → Regex
  | [] => set .none
  | [r] => r
  | r :: rest => alt r (alts rest)

/-- A rough count of the states of a byte-wise automaton for the expression. -/
def weight : Regex → Nat
  | empty => 1
  | set s => s.weight
  | assert _ => 1
  | seq r s => r.weight + s.weight
  | alt r s => r.weight + s.weight + 1
  | .repeat r min none => (min + 1) * (r.weight + 1)
  | .repeat r min (some max) => min * r.weight + (max - min) * (r.weight + 1) + 1

end Regex

end Morphology
