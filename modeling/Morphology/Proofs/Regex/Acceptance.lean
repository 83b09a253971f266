import Morphology.Proofs.Regex.Letters
import Morphology.Regex.Engine

/-!
# What is accepted between anchors

A written expression is anchored by pasting it into a group behind an anchor. Whatever the engine
is, an expression is accepted there and stays what it is, unless a comment at its end swallows the
parenthesis that closes the group. Conversely, a text that is accepted in the group is an expression
by itself unless one of its own parentheses closes the group, so that the rest of the text stands
behind it, where no anchor holds.
-/

namespace Morphology

namespace AnchoredRegex

variable {engine : RegexEngine} {parse : List Char → Option Expression} {pattern : String}
  {r : AnchoredRegex} {e : Expression}

/-- A text is accepted if both anchored forms can be compiled. -/
theorem compile?_eq_some_iff : compile? engine pattern = some r ↔
    engine.compile (openingText pattern) = some r.opening ∧
      engine.compile (wholeText pattern) = some r.whole := by
  constructor
  · intro h
    obtain ⟨opening, hopening, h⟩ := Option.bind_eq_some_iff.mp h
    obtain ⟨whole, hwhole, h⟩ := Option.bind_eq_some_iff.mp h
    obtain rfl := Option.some.inj h
    exact ⟨hopening, hwhole⟩
  · rintro ⟨hopening, hwhole⟩
    simp [compile?, hopening, hwhole]

theorem openingText_toList : (openingText pattern).toList =
    '^' :: '(' :: '?' :: ':' :: (pattern.toList ++ [')']) := by
  rw [openingText, String.toList_append, String.toList_append]
  rfl

theorem wholeText_toList : (wholeText pattern).toList =
    '^' :: '(' :: '?' :: ':' :: (pattern.toList ++ [')']) ++ ['$'] := by
  have hclosing : ")$".toList = [')'] ++ ['$'] := rfl
  rw [wholeText, String.toList_append, String.toList_append, hclosing, ← List.append_assoc]
  rfl

/-- A complete expression is a group in its anchored forms. -/
theorem anchoredGroup_texts (hcomplete : Complete parse pattern.toList)
    (hparse : parse pattern.toList = some e) :
    AnchoredGroup parse (openingText pattern).toList (.seq .textStart e) ∧
      AnchoredGroup parse (wholeText pattern).toList (.seq (.seq .textStart e) .textEnd) := by
  have hopening := (AnchoredGroup.group hcomplete hparse).start
  rw [openingText_toList, wholeText_toList]
  exact ⟨hopening, hopening.stop⟩

/-- An anchored form that can be compiled is an expression. -/
theorem isSome_parse (h : engine.Follows parse) {text : String} {matcher : Matcher}
    (hcompile : engine.compile text = some matcher) : (parse text.toList).isSome := by
  obtain ⟨e, he, -⟩ := h.compiled hcompile
  exact Option.isSome_of_eq_some he

theorem complete_of_compile? (h : engine.Follows parse) (hr : compile? engine pattern = some r)
    (hinside : ¬ BreaksOut parse pattern.toList) : Complete parse pattern.toList := by
  have hopening := isSome_parse h (compile?_eq_some_iff.mp hr).1
  rw [openingText_toList] at hopening
  exact (h.complete_or_breaksOut hopening).resolve_right hinside

/-- A complete expression has anchored forms, and these are compiled if they are not too large. -/
theorem exists_compile? (h : engine.Follows parse)
    (hopening : engine.HasRoomFor parse (openingText pattern))
    (hwhole : engine.HasRoomFor parse (wholeText pattern))
    (hcomplete : Complete parse pattern.toList) : ∃ r, compile? engine pattern = some r := by
  obtain ⟨e, hparse⟩ := Option.isSome_iff_exists.mp hcomplete.1
  obtain ⟨hstart, hboth⟩ := anchoredGroup_texts hcomplete hparse
  obtain ⟨f, hf, -⟩ := h.anchored hstart
  obtain ⟨g, hg, -⟩ := h.anchored hboth
  obtain ⟨opening, hopening⟩ := Option.isSome_iff_exists.mp (hopening (Option.isSome_of_eq_some hf))
  obtain ⟨whole, hwhole⟩ := Option.isSome_iff_exists.mp (hwhole (Option.isSome_of_eq_some hg))
  exact ⟨⟨opening, whole⟩, compile?_eq_some_iff.mpr ⟨hopening, hwhole⟩⟩

/-- What anchors make of an expression: what the anchored forms match, and where they are found. -/
structure Anchors (parse : List Char → Option Expression) (pattern : String) (e : Expression)
    (r : AnchoredRegex) : Prop where
  opening_matches {f : Expression} : parse (openingText pattern).toList = some f →
    ∀ text i j, i ≤ text.length → (f.Matches text i j ↔ i = 0 ∧ e.Matches text 0 j)
  whole_matches {f : Expression} : parse (wholeText pattern).toList = some f →
    ∀ text i j, i ≤ text.length →
      (f.Matches text i j ↔ i = 0 ∧ j = text.length ∧ e.Matches text 0 j)
  opening_iff (text : List Char) : r.opening text ↔ ∃ j, e.Matches text 0 j
  whole_iff (text : List Char) : r.whole text ↔ e.Matches text 0 text.length

/-- An accepted text that is an expression by itself has anchors around that expression. -/
theorem anchors_of_compile? (h : engine.Follows parse) (hr : compile? engine pattern = some r)
    (hparse : parse pattern.toList = some e) : Anchors parse pattern e r := by
  obtain ⟨hopening, hwhole⟩ := compile?_eq_some_iff.mp hr
  obtain ⟨hstart, hboth⟩ :=
    anchoredGroup_texts (complete_of_compile? h hr (h.not_breaksOut hparse)) hparse
  obtain ⟨f, hf, hopeningMatches⟩ := h.anchored hstart
  obtain ⟨g, hg, hwholeMatches⟩ := h.anchored hboth
  have hfirst (text : List Char) (i j : Nat) (hi : i ≤ text.length) :
      f.Matches text i j ↔ i = 0 ∧ e.Matches text 0 j :=
    (hopeningMatches text i j hi).trans (Expression.matches_textStart_seq_iff hi)
  have hall (text : List Char) (i j : Nat) (hi : i ≤ text.length) :
      g.Matches text i j ↔ i = 0 ∧ j = text.length ∧ e.Matches text 0 j := by
    rw [hwholeMatches text i j hi, Expression.matches_seq_textEnd_iff hi,
      Expression.matches_textStart_seq_iff hi]
    constructor
    · rintro ⟨rfl, rfl, he⟩
      exact ⟨rfl, rfl, he⟩
    · rintro ⟨rfl, rfl, he⟩
      exact ⟨rfl, rfl, he⟩
  refine
    { opening_matches := fun hparse ↦ Option.some.inj (hf.symm.trans hparse) ▸ hfirst
      whole_matches := fun hparse ↦ Option.some.inj (hg.symm.trans hparse) ▸ hall
      opening_iff := fun text ↦ ?_
      whole_iff := fun text ↦ ?_ }
  · rw [h.matcher_iff hopening hf]
    constructor
    · rintro ⟨i, hi, j, hmatch⟩
      exact ⟨j, ((hfirst text i j hi).mp hmatch).2⟩
    · rintro ⟨j, he⟩
      exact ⟨0, Nat.zero_le _, j, (hfirst text 0 j (Nat.zero_le _)).mpr ⟨rfl, he⟩⟩
  · rw [h.matcher_iff hwhole hg]
    constructor
    · rintro ⟨i, hi, j, hmatch⟩
      obtain ⟨-, rfl, he⟩ := (hall text i j hi).mp hmatch
      exact he
    · intro he
      exact ⟨0, Nat.zero_le _, _, (hall text 0 _ (Nat.zero_le _)).mpr ⟨rfl, rfl, he⟩⟩

end AnchoredRegex

/-- An expression closes no group around it. A text that closes none is accepted, as far as the
engine has room for its anchored forms, just if it is an expression and goes on in no comment. It is
then that expression, anchored at its start and at both ends, so that nothing is found behind the
start. So whatever else is accepted closes the group around it, and the anchors do not hold for all
of it. -/
theorem anchors_accept_expressions {engine : RegexEngine} {parse : List Char → Option Expression}
    (h : engine.Follows parse) (pattern : String)
    (hopening : engine.HasRoomFor parse (AnchoredRegex.openingText pattern))
    (hwhole : engine.HasRoomFor parse (AnchoredRegex.wholeText pattern)) :
    ((∃ e, parse pattern.toList = some e) → ¬ BreaksOut parse pattern.toList) ∧
      (¬ BreaksOut parse pattern.toList →
        ((∃ r, AnchoredRegex.compile? engine pattern = some r) ↔ Complete parse pattern.toList)) ∧
      ∀ e r, parse pattern.toList = some e → AnchoredRegex.compile? engine pattern = some r →
        r.Anchors parse pattern e := by
  refine ⟨?_, fun hinside ↦ ⟨?_, ?_⟩, fun e r hparse hr ↦ ?_⟩
  · rintro ⟨e, hparse⟩
    exact h.not_breaksOut hparse
  · rintro ⟨r, hr⟩
    exact AnchoredRegex.complete_of_compile? h hr hinside
  · exact AnchoredRegex.exists_compile? h hopening hwhole
  · exact AnchoredRegex.anchors_of_compile? h hr hparse

/-- Two branches: an anchor in front of the bar alone would hold for the first one only. -/
def branches : Letters := .alt (.seq .empty (.letter 'a')) (.seq .empty (.letter 'b'))

/-- The anchors around two branches hold for both of them. -/
theorem anchors_accept_expressions_branches :
    Letters.engine.Follows Letters.parse ∧
      Letters.engine.HasRoomFor Letters.parse (AnchoredRegex.openingText "a|b") ∧
      Letters.engine.HasRoomFor Letters.parse (AnchoredRegex.wholeText "a|b") ∧
      Letters.parse "a|b".toList = some branches.toExpression ∧
      ∃ r, AnchoredRegex.compile? Letters.engine "a|b" = some r ∧
        r.Anchors Letters.parse "a|b" branches.toExpression := by
  have hparse : Letters.parse "a|b".toList = some branches.toExpression := rfl
  have hcomplete : Complete Letters.parse "a|b".toList := Letters.complete_of_read rfl
  obtain ⟨hinside, haccepted, hanchors⟩ := anchors_accept_expressions Letters.engine_follows "a|b"
    (Letters.engine_hasRoomFor _) (Letters.engine_hasRoomFor _)
  obtain ⟨r, hr⟩ := (haccepted (hinside ⟨_, hparse⟩)).mpr hcomplete
  exact ⟨Letters.engine_follows, Letters.engine_hasRoomFor _, Letters.engine_hasRoomFor _, hparse,
    r, hr, hanchors _ r hparse hr⟩

/-- A text that closes the group around it is accepted although it is no expression, and what
follows is found behind the start; and an expression whose comment swallows what closes the group
is not accepted. -/
theorem anchors_change_expressions :
    (Regex.engine.compile "a)|(?:b" = none ∧
      ∃ r, AnchoredRegex.ofPattern? "a)|(?:b" = some r ∧ r.prefixLengths "xb".toList = [2]) ∧
    (Regex.engine.compile "(?x)a#c").isSome ∧ AnchoredRegex.ofPattern? "(?x)a#c" = none := by
  refine ⟨⟨by decide, _, rfl, by decide⟩, by decide, by decide⟩

end Morphology
