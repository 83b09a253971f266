import Morphology.Proofs.Regex.Acceptance
import Morphology.Proofs.Regex.ByteLengths

/-!
# Beginnings that match

The sizes that an anchored expression offers are those of the beginnings that it matches as texts of
their own, but only if the expression also matches at the start of the whole text. That loses
nothing as long as the expression does not look at what follows a place. With a condition on what
follows, a beginning can match although nothing matches in front of the rest, and then its size is
missing.
-/

namespace Morphology

namespace AnchoredRegex

variable {engine : RegexEngine} {parse : List Char → Option Expression} {pattern : String}
  {r : AnchoredRegex} {e : Expression} {text : String} {size : Nat}

/-- The sizes that anchors around an expression offer. -/
theorem Anchors.mem_prefixSizes_iff (h : r.Anchors parse pattern e) : size ∈ r.prefixSizes text ↔
    (∃ first, beginning? text size = some first ∧
      e.Matches first.toList 0 first.toList.length) ∧ ∃ j, e.Matches text.toList 0 j := by
  rw [AnchoredRegex.mem_prefixSizes_iff, h.opening_iff]
  simp only [h.whole_iff]

/-- A beginning of a text that matches also does so in front of the rest, where nothing looks at
what follows. -/
theorem exists_matches_of_beginning? {first : String} (hback : e.LooksBack)
    (hfirst : beginning? text size = some first)
    (hmatch : e.Matches first.toList 0 first.toList.length) : ∃ j, e.Matches text.toList 0 j := by
  obtain ⟨n, hn, -, rfl⟩ := beginning?_eq_some_iff.mp hfirst
  rw [String.toList_ofList] at hmatch
  have hlonger : e.Matches (text.toList.take n ++ text.toList.drop n) 0
      (text.toList.take n).length := hmatch.append hback (Nat.zero_le _)
  rw [List.take_append_drop] at hlonger
  exact ⟨_, hlonger⟩

/-- With an anchor at its own end, an expression matches the beginnings that it matches without, but
unless one of them is the whole text, none of them is offered. -/
theorem prefixSizes_of_endAnchor (h : engine.Follows parse) (hcomplete : Complete parse pattern.toList)
    (hparse : parse pattern.toList = some e)
    (hr : compile? engine ("(?:" ++ pattern ++ ")$") = some r) :
    (∀ first, r.whole first ↔ e.Matches first 0 first.length) ∧
      (¬ e.Matches text.toList 0 text.toList.length → r.prefixSizes text = []) := by
  have hgroup := (AnchoredGroup.group hcomplete hparse).stop
  have htext : ("(?:" ++ pattern ++ ")$").toList =
      '(' :: '?' :: ':' :: (pattern.toList ++ [')']) ++ ['$'] := by
    have hclosing : ")$".toList = [')'] ++ ['$'] := rfl
    rw [String.toList_append, String.toList_append, hclosing, ← List.append_assoc]
    rfl
  obtain ⟨f, hf, hmatches⟩ := h.anchored hgroup
  have hanchors := anchors_of_compile? h hr (htext ▸ hf)
  have hend (first : List Char) (j : Nat) :
      f.Matches first 0 j ↔ j = first.length ∧ e.Matches first 0 first.length :=
    (hmatches first 0 j (Nat.zero_le _)).trans
      (Expression.matches_seq_textEnd_iff (Nat.zero_le _))
  refine ⟨fun first ↦ ?_, fun hmiss ↦ List.eq_nil_iff_forall_not_mem.mpr fun size hsize ↦ ?_⟩
  · rw [hanchors.whole_iff, hend, and_iff_right rfl]
  · obtain ⟨-, j, hmatch⟩ := hanchors.mem_prefixSizes_iff.mp hsize
    exact hmiss ((hend _ _).mp hmatch).2

end AnchoredRegex

/-- The sizes that an accepted expression offers increase, and they are the lengths that it offers,
told in bytes. A size is offered just if cutting the text off there leaves a beginning in which the
form with both anchors is found, provided that the form with one anchor is found in the whole text.
If the text between the anchors is an expression by itself, this is a beginning that the expression
matches, provided that it also matches at the start of the whole text; where it does not look ahead,
this goes without saying. -/
theorem prefixLengths_find_beginnings {engine : RegexEngine}
    {parse : List Char → Option Expression} (h : engine.Follows parse) {pattern : String}
    {r : AnchoredRegex} (hr : AnchoredRegex.compile? engine pattern = some r) (text : String) :
    (r.prefixSizes text).Pairwise (· < ·) ∧
      r.prefixSizes text =
        (r.prefixLengths text.toList).map (AnchoredRegex.byteLength text.toList) ∧
      (∃ opening whole, parse (AnchoredRegex.openingText pattern).toList = some opening ∧
        parse (AnchoredRegex.wholeText pattern).toList = some whole ∧
        ∀ size, size ∈ r.prefixSizes text ↔
          (∃ first, beginning? text size = some first ∧ whole.FoundIn first.toList) ∧
            opening.FoundIn text.toList) ∧
      ∀ e, parse pattern.toList = some e →
        (∀ size, size ∈ r.prefixSizes text ↔
          (∃ first, beginning? text size = some first ∧
            e.Matches first.toList 0 first.toList.length) ∧ ∃ j, e.Matches text.toList 0 j) ∧
        (e.LooksBack → ∀ size, size ∈ r.prefixSizes text ↔
          ∃ first, beginning? text size = some first ∧
            e.Matches first.toList 0 first.toList.length) := by
  refine ⟨r.pairwise_prefixSizes text, r.prefixSizes_eq text, ?_, fun e hparse ↦ ?_⟩
  · obtain ⟨hopening, hwhole⟩ := AnchoredRegex.compile?_eq_some_iff.mp hr
    obtain ⟨opening, hstart, hopeningFound⟩ := h.compiled hopening
    obtain ⟨whole, hboth, hwholeFound⟩ := h.compiled hwhole
    refine ⟨opening, whole, hstart, hboth, fun size ↦ ?_⟩
    rw [AnchoredRegex.mem_prefixSizes_iff, hopeningFound]
    simp only [hwholeFound]
  · have hanchors := AnchoredRegex.anchors_of_compile? h hr hparse
    refine ⟨fun size ↦ hanchors.mem_prefixSizes_iff, fun hback size ↦ ?_⟩
    rw [hanchors.mem_prefixSizes_iff]
    refine and_iff_left_of_imp ?_
    rintro ⟨first, hfirst, hmatch⟩
    exact AnchoredRegex.exists_matches_of_beginning? hback hfirst hmatch

/-- Two words, one of which the other one begins with. -/
def words : Letters :=
  .alt (.seq .empty (.letter 's')) (.seq (.seq .empty (.letter 's')) (.letter 't'))

/-- Of two words that begin alike, both are found at the beginning of a text. -/
theorem prefixLengths_find_beginnings_words : Letters.engine.Follows Letters.parse ∧
    ∃ r, AnchoredRegex.compile? Letters.engine "s|st" = some r ∧
      ∀ size, size ∈ r.prefixSizes "stä" ↔ ∃ first, beginning? "stä" size = some first ∧
        words.toExpression.Matches first.toList 0 first.toList.length := by
  have hparse : Letters.parse "s|st".toList = some words.toExpression := rfl
  have hpattern : ∃ r, AnchoredRegex.compile? Letters.engine "s|st" = some r := ⟨_, rfl⟩
  obtain ⟨r, hr⟩ := hpattern
  obtain ⟨-, -, -, hfound⟩ := prefixLengths_find_beginnings Letters.engine_follows hr "stä"
  have hback : words.toExpression.LooksBack := ⟨⟨trivial, trivial⟩, ⟨trivial, trivial⟩, trivial⟩
  exact ⟨Letters.engine_follows, r, hr, (hfound _ hparse).2 hback⟩

/-- An expression that matches a beginning, but not in front of the rest, does not offer its
length. -/
theorem prefixLengths_miss_end : ∃ r, AnchoredRegex.ofPattern? "a$" = some r ∧
    r.whole ("ab".toList.take 1) ∧ r.prefixLengths "ab".toList = [] := by
  refine ⟨_, rfl, ?_, ?_⟩ <;> decide

end Morphology
