/-!
# Anchored expressions

Written regular expressions are left to an engine, which compiles them and finds them in texts. An
expression that is used at a place of a text must match from there on. The written form is put
between anchors twice: once at its start only, and once at both ends. The second form tells which
beginnings of a text match; the first one is asked beforehand whether any can.
-/

namespace Morphology

/-- A compiled expression: whether it is found anywhere in a text. -/
abbrev Matcher := List Char → Bool

/-- What compiles written expressions. -/
structure RegexEngine where
  /-- Compiles an expression, unless the text writes none or writes one that is too large. -/
  compile : String → Option Matcher

/-- An expression with an anchor at its start, and with anchors at both ends. -/
structure AnchoredRegex where
  opening : Matcher
  whole : Matcher

namespace AnchoredRegex

/-- The written form with an anchor at its start. -/
def openingText (pattern : String) : String := "^(?:" ++ pattern ++ ")"

/-- The written form with anchors at both ends. -/
def wholeText (pattern : String) : String := "^(?:" ++ pattern ++ ")$"

/-- Anchors a written expression, if both anchored forms can be compiled. -/
def compile? (engine : RegexEngine) (pattern : String) : Option AnchoredRegex := do
  let opening ← engine.compile (openingText pattern)
  let whole ← engine.compile (wholeText pattern)
  return { opening, whole }

/-- The lengths of the beginnings of a text that match, shortest first. -/
def prefixLengths (r : AnchoredRegex) (text : List Char) : List Nat :=
  if r.opening text then
    (List.range (text.length + 1)).filter fun n ↦ r.whole (text.take n)
  else []

end AnchoredRegex

end Morphology
