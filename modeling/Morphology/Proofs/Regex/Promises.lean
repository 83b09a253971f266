import Morphology.Proofs.Regex.Expression
import Morphology.Rule.AnchoredRegex

/-!
# What engines promise

An engine is known by what is promised of the expressions that are written for it: which texts write
expressions, what these match, and that a compiled expression is found where it matches. The
promises are about groups and about the anchors around them, and about comments, in which
parentheses do not count. They leave open how everything else is written.
-/

namespace Morphology

section

variable (parse : List Char → Option Expression)

/-- Whether a text writes an expression that is over where the text ends, so that a parenthesis that
is closed behind it is one too many. Where the text ends in a comment, the comment takes it in. -/
def Complete (text : List Char) : Prop := (parse text).isSome ∧ parse (text ++ [')']) = none

/-- Texts that consist of a group and of anchors around it, with what they write. -/
inductive AnchoredGroup : List Char → Expression → Prop
  | group {inner : List Char} {e : Expression} (complete : Complete parse inner)
      (parse_eq : parse inner = some e) :
      AnchoredGroup ('(' :: '?' :: ':' :: (inner ++ [')'])) e
  | start {text : List Char} {e : Expression} (rest : AnchoredGroup text e) :
      AnchoredGroup ('^' :: text) (.seq .textStart e)
  | stop {text : List Char} {e : Expression} (first : AnchoredGroup text e) :
      AnchoredGroup (text ++ ['$']) (.seq e .textEnd)

/-- Whether a text closes a group that was opened before it: it goes on behind an expression with a
closing parenthesis that belongs to no group of the expression. -/
def BreaksOut (text : List Char) : Prop :=
  ∃ inner rest, text = inner ++ ')' :: rest ∧ Complete parse inner

/-- What an engine promises of the texts that `parse` says are expressions. -/
structure RegexEngine.Follows (engine : RegexEngine) : Prop where
  /-- What is compiled is an expression, and it is found in a text just if it matches somewhere. -/
  compiled {pattern : String} {matcher : Matcher} : engine.compile pattern = some matcher →
    ∃ e, parse pattern.toList = some e ∧ ∀ text, matcher text ↔ e.FoundIn text
  /-- A group matches what the expression in it matches, and anchors match at the ends of a text. -/
  anchored {text : List Char} {e : Expression} : AnchoredGroup parse text e →
    ∃ f, parse text = some f ∧ f.Equivalent e
  /-- A group that stands behind an anchor can also stand without it. -/
  unanchored {text : List Char} : (parse ('^' :: '(' :: text)).isSome →
    (parse ('(' :: text)).isSome
  /-- A group is closed, and what it holds is an expression. -/
  closed {text : List Char} : (parse ('(' :: '?' :: ':' :: text)).isSome →
    ∃ inner rest, text = inner ++ ')' :: rest ∧ Complete parse inner
  /-- A parenthesis that closes no group is a mistake, whatever follows it. -/
  unopened {inner rest : List Char} : Complete parse inner → parse (inner ++ ')' :: rest) = none

/-- Whether a text, if it writes an expression, writes one that is not too large for an engine. -/
def RegexEngine.HasRoomFor (engine : RegexEngine) (pattern : String) : Prop :=
  (parse pattern.toList).isSome → (engine.compile pattern).isSome

end

namespace RegexEngine.Follows

variable {engine : RegexEngine} {parse : List Char → Option Expression}
  {pattern : String} {matcher : Matcher} {text : List Char} {e : Expression}

/-- A compiled expression is found where the expression matches that its text writes. -/
theorem matcher_iff (h : engine.Follows parse) (hcompile : engine.compile pattern = some matcher)
    (hparse : parse pattern.toList = some e) : matcher text ↔ e.FoundIn text := by
  obtain ⟨f, hf, hfound⟩ := h.compiled hcompile
  obtain rfl := Option.some.inj (hf.symm.trans hparse)
  exact hfound text

/-- An expression closes no group that was opened before it. -/
theorem not_breaksOut (h : engine.Follows parse) (hparse : parse text = some e) :
    ¬ BreaksOut parse text := by
  rintro ⟨inner, rest, rfl, hinner⟩
  rw [h.unopened hinner] at hparse
  exact absurd hparse nofun

/-- What is read in a group behind an anchor is complete, or it closes the group itself. -/
theorem complete_or_breaksOut (h : engine.Follows parse)
    (hparse : (parse ('^' :: '(' :: '?' :: ':' :: (text ++ [')']))).isSome) :
    Complete parse text ∨ BreaksOut parse text := by
  obtain ⟨inner, rest, htext, hinner⟩ := h.closed (h.unanchored hparse)
  rcases List.eq_nil_or_concat rest with rfl | ⟨rest, last, rfl⟩
  · obtain rfl := (List.append_inj' htext rfl).1
    exact .inl hinner
  · have hsplit : text ++ [')'] = (inner ++ ')' :: rest) ++ [last] := by simpa using htext
    exact .inr ⟨inner, rest, (List.append_inj' hsplit rfl).1, hinner⟩

end RegexEngine.Follows

end Morphology
