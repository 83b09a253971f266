import Mathlib.Data.List.Infix
import Morphology.Rule.TextPattern

/-!
# Stretches that fit a text pattern

A pattern fits beginnings of a text only: none of its lengths goes beyond the end. Where a literal
or a class fits, the text contains what the pattern asks for. Apart from regular expressions, no
pattern looks at the characters behind the stretch that it fits.
-/

namespace Morphology.TextPattern

theorem mem_lengthsBetween {n min longest : Nat} :
    n ∈ lengthsBetween min longest ↔ min ≤ n ∧ n ≤ longest := by
  unfold lengthsBetween
  split
  next h =>
    simp only [List.not_mem_nil, false_iff]
    omega
  next h =>
    rw [List.mem_range'_1]
    omega

theorem atMost_le (max : Option Nat) (available : Nat) : atMost max available ≤ available := by
  cases max with
  | none => exact Nat.le_refl available
  | some max => exact Nat.min_le_right max available

theorem le_atMost_iff {max : Option Nat} {n available : Nat} :
    n ≤ atMost max available ↔ n ≤ available ∧ ∀ most, max = some most → n ≤ most := by
  cases max with
  | none => exact (and_iff_left nofun).symm
  | some max =>
    simp only [atMost, Option.some.injEq, forall_eq']
    omega

/-- How far a class can be followed is told by the characters that are passed. -/
theorem le_length_takeWhile_iff {p : Char → Bool} {l : List Char} {n : Nat} :
    n ≤ (l.takeWhile p).length ↔ n ≤ l.length ∧ ∀ c ∈ l.take n, p c := by
  induction l generalizing n with
  | nil => cases n <;> simp
  | cons c rest ih =>
    cases n with
    | zero => simp
    | succ n =>
      by_cases hc : p c
      · simp [hc, ih]
      · simp [hc]

variable {pattern : TextPattern} {rest : List Char} {n : Nat}

/-! ## The stretches of each kind of pattern -/

theorem mem_lengths_literal {text : List Char} :
    n ∈ (literal text).lengths rest ↔ n = text.length ∧ text <+: rest := by
  rw [lengths]
  by_cases h : text.isPrefixOf rest
  · simp [List.isPrefixOf_iff_prefix.mp h]
  · simp [← List.isPrefixOf_iff_prefix, h]

theorem mem_lengths_any {min : Nat} {max : Option Nat} : n ∈ (any min max).lengths rest ↔
    min ≤ n ∧ n ≤ rest.length ∧ ∀ most, max = some most → n ≤ most := by
  rw [lengths, mem_lengthsBetween, le_atMost_iff]

theorem mem_lengths_run {cls : CharacterClass} {min : Nat} {max : Option Nat} :
    n ∈ (run cls min max).lengths rest ↔ n ∈ (any min max).lengths rest ∧
      ∀ c ∈ rest.take n, cls.contains c := by
  rw [mem_lengths_any, lengths, mem_lengthsBetween, le_length_takeWhile_iff, List.length_take,
    List.take_take, Nat.le_min, le_atMost_iff, and_assoc]
  constructor
  · intro ⟨hmin, hmost, hlength, hall⟩
    rw [Nat.min_eq_left (le_atMost_iff.mpr hmost)] at hall
    exact ⟨⟨hmin, hmost⟩, hall⟩
  · intro ⟨⟨hmin, hmost⟩, hall⟩
    rw [Nat.min_eq_left (le_atMost_iff.mpr hmost)]
    exact ⟨hmin, hmost, hmost.1, hall⟩

/-! ## Stretches and the text around them -/

theorem le_length (h : n ∈ pattern.lengths rest) : n ≤ rest.length := by
  cases pattern with
  | literal text =>
    rw [lengths] at h
    split at h
    next hprefix =>
      rw [List.mem_singleton.mp h]
      exact (List.isPrefixOf_iff_prefix.mp hprefix).length_le
    next => exact absurd h List.not_mem_nil
  | run cls min max =>
    have hlongest := (mem_lengthsBetween.mp h).2
    have htake :=
      (List.takeWhile_sublist cls.contains (l := rest.take (atMost max rest.length))).length_le
    rw [List.length_take] at htake
    omega
  | any min max =>
    have hlongest := (mem_lengthsBetween.mp h).2
    have hmost := atMost_le max rest.length
    omega
  | regex r =>
    rw [lengths, AnchoredRegex.prefixLengths] at h
    split at h
    · have hrange := List.mem_range.mp (List.mem_filter.mp h).1
      omega
    · exact absurd h List.not_mem_nil

theorem literal_prefix {text : List Char} (h : n ∈ (literal text).lengths rest) : text <+: rest := by
  rw [lengths] at h
  split at h
  next hprefix => exact List.isPrefixOf_iff_prefix.mp hprefix
  next => exact absurd h List.not_mem_nil

/-- Where a class must fit at least once, there is a character of the class. -/
theorem run_exists {cls : CharacterClass} {min : Nat} {max : Option Nat} (hmin : 0 < min)
    (h : n ∈ (run cls min max).lengths rest) : ∃ c ∈ rest, cls.contains c := by
  have hlongest := mem_lengthsBetween.mp h
  have hpos : 0 < ((rest.take (atMost max rest.length)).takeWhile cls.contains).length := by omega
  obtain ⟨c, hc⟩ := List.exists_mem_of_length_pos hpos
  have hmem : c ∈ rest := List.mem_of_mem_take (List.takeWhile_subset _ hc)
  exact ⟨c, hmem, List.all_eq_true.mp List.all_takeWhile c hc⟩

/-- A stretch that a pattern fits is told by its own characters, not by those behind it, unless the
pattern is a regular expression. -/
theorem mem_lengths_append {more : List Char} (hregex : ∀ r, pattern ≠ regex r)
    (hn : n ≤ rest.length) : n ∈ pattern.lengths (rest ++ more) ↔ n ∈ pattern.lengths rest := by
  have hlonger : n ≤ (rest ++ more).length := by
    rw [List.length_append]
    exact Nat.le_add_right_of_le hn
  have hany (min : Nat) (max : Option Nat) :
      n ∈ (any min max).lengths (rest ++ more) ↔ n ∈ (any min max).lengths rest := by
    rw [mem_lengths_any, mem_lengths_any, and_iff_right hlonger, and_iff_right hn]
  cases pattern with
  | literal text =>
    rw [mem_lengths_literal, mem_lengths_literal]
    exact and_congr_right fun h ↦ List.isPrefix_append_of_length (h ▸ hn)
  | run cls min max =>
    rw [mem_lengths_run, mem_lengths_run, hany, List.take_append_of_le_length hn]
  | any min max => exact hany min max
  | regex r => exact absurd rfl (hregex r)

end Morphology.TextPattern
