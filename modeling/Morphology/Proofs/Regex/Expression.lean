/-!
# What expressions match

An expression matches a text from one place to another: a set matches one step over a member, a
condition no step at all, a sequence two matches of which the second one starts where the first one
ends, and a repetition so many matches in a row. Places are numbered by the characters before them.
How expressions are written, and how they are found in texts, is left open.
-/

namespace Morphology

inductive Expression
  | empty
  /-- One character of a set. -/
  | one (members : Char → Bool)
  /-- No character, at a place where the characters before and after it, absent at the ends of the
  text, meet a condition. -/
  | look (holds : Option Char → Option Char → Bool)
  | seq (e f : Expression)
  | alt (e f : Expression)
  /-- At least `min` and, where there is a maximum, at most `max` matches in a row. -/
  | repeat (e : Expression) (min : Nat) (max : Option Nat)

namespace Expression

/-- The condition that a text starts here. -/
def textStart : Expression := look fun before _ ↦ before.isNone

/-- The condition that a text ends here. -/
def textEnd : Expression := look fun _ after ↦ after.isNone

/-- The character before a place of a text. -/
def charBefore (text : List Char) : Nat → Option Char
  | 0 => none
  | i + 1 => text[i]?

/-- So many steps of a relation, one after the other. -/
def Steps (R : Nat → Nat → Prop) : Nat → Nat → Nat → Prop
  | 0, i, j => i = j
  | n + 1, i, j => ∃ k, R i k ∧ Steps R n k j

/-- Whether an expression matches a text from one place to another. -/
def Matches (text : List Char) : Expression → Nat → Nat → Prop
  | empty, i, j => i = j
  | one members, i, j => j = i + 1 ∧ ∃ c, text[i]? = some c ∧ members c
  | look holds, i, j => i = j ∧ holds (charBefore text i) text[i]?
  | seq e f, i, j => ∃ k, e.Matches text i k ∧ f.Matches text k j
  | alt e f, i, j => e.Matches text i j ∨ f.Matches text i j
  | .repeat e min max, i, j =>
    ∃ n, min ≤ n ∧ (∀ most, max = some most → n ≤ most) ∧ Steps (e.Matches text) n i j

/-- Whether an expression is found somewhere in a text. -/
def FoundIn (e : Expression) (text : List Char) : Prop :=
  ∃ i, i ≤ text.length ∧ ∃ j, e.Matches text i j

/-- Whether two expressions match the same. -/
def Equivalent (e f : Expression) : Prop :=
  ∀ text i j, i ≤ text.length → (e.Matches text i j ↔ f.Matches text i j)

/-- Whether no condition of an expression looks at the character after a place. -/
def LooksBack : Expression → Prop
  | empty => True
  | one _ => True
  | look holds => ∀ before after other, holds before after = holds before other
  | seq e f => e.LooksBack ∧ f.LooksBack
  | alt e f => e.LooksBack ∧ f.LooksBack
  | .repeat e _ _ => e.LooksBack

/-! ## Steps -/

section

variable {R S : Nat → Nat → Prop} {n i j : Nat}

/-- What a step keeps, all of them keep. -/
theorem Steps.keep {P : Nat → Prop} (hR : ∀ i j, R i j → P i → P j) (h : Steps R n i j)
    (hi : P i) : P j := by
  induction n generalizing i with
  | zero => exact h ▸ hi
  | succ n ih =>
    obtain ⟨k, hfirst, hrest⟩ := h
    exact ih hrest (hR i k hfirst hi)

/-- Steps of one relation are steps of another, where the places that they pass allow that. -/
theorem Steps.mono {P : Nat → Prop} (hRS : ∀ i j, P i → R i j → S i j)
    (hR : ∀ i j, R i j → P i → P j) (h : Steps R n i j) (hi : P i) : Steps S n i j := by
  induction n generalizing i with
  | zero => exact h
  | succ n ih =>
    obtain ⟨k, hfirst, hrest⟩ := h
    exact ⟨k, hRS i k hi hfirst, ih hrest (hR i k hfirst hi)⟩

end

/-! ## Places -/

variable {text more : List Char} {e f g : Expression} {i j : Nat}

/-- A match that starts in a text ends in it. -/
theorem Matches.le_length (h : e.Matches text i j) (hi : i ≤ text.length) : j ≤ text.length := by
  induction e generalizing i j with
  | empty => exact h ▸ hi
  | one members =>
    obtain ⟨rfl, c, hc, -⟩ := h
    exact (List.getElem?_eq_some_iff.mp hc).1
  | look holds => exact h.1 ▸ hi
  | seq e f ihe ihf =>
    obtain ⟨k, he, hf⟩ := h
    exact ihf hf (ihe he hi)
  | alt e f ihe ihf => exact h.elim (ihe · hi) (ihf · hi)
  | «repeat» e min max ih =>
    obtain ⟨n, -, -, hsteps⟩ := h
    exact hsteps.keep (P := (· ≤ text.length)) (fun _ _ ↦ ih) hi

theorem charBefore_append (h : i ≤ text.length) :
    charBefore (text ++ more) i = charBefore text i := by
  cases i with
  | zero => rfl
  | succ i => exact List.getElem?_append_left h

/-- A match of an expression that does not look ahead is still one when the text goes on. -/
theorem Matches.append (he : e.LooksBack) (hi : i ≤ text.length) (h : e.Matches text i j) :
    e.Matches (text ++ more) i j := by
  induction e generalizing i j with
  | empty => exact h
  | one members =>
    obtain ⟨rfl, c, hc, hmember⟩ := h
    refine ⟨rfl, c, ?_, hmember⟩
    rw [List.getElem?_append_left (List.getElem?_eq_some_iff.mp hc).1, hc]
  | look holds =>
    refine ⟨h.1, ?_⟩
    rw [charBefore_append hi, he _ _ text[i]?]
    exact h.2
  | seq e f ihe ihf =>
    obtain ⟨k, hfirst, hsecond⟩ := h
    exact ⟨k, ihe he.1 hi hfirst, ihf he.2 (hfirst.le_length hi) hsecond⟩
  | alt e f ihe ihf => exact h.imp (ihe he.1 hi) (ihf he.2 hi)
  | «repeat» e min max ih =>
    obtain ⟨n, hmin, hmax, hsteps⟩ := h
    exact ⟨n, hmin, hmax, hsteps.mono (P := (· ≤ text.length)) (fun _ _ ↦ ih he)
      (fun _ _ hstep ↦ hstep.le_length) hi⟩

/-! ## Anchors -/

theorem matches_textStart_iff (hi : i ≤ text.length) :
    textStart.Matches text i j ↔ i = 0 ∧ j = 0 := by
  have hstart : charBefore text i = none ↔ i = 0 := by
    cases i with
    | zero => exact iff_of_true rfl rfl
    | succ i =>
      refine iff_of_false (fun hnone ↦ ?_) (Nat.succ_ne_zero i)
      exact absurd (List.getElem?_eq_none_iff.mp hnone) (Nat.not_le.mpr hi)
  rw [textStart, Matches, Option.isNone_iff_eq_none, hstart]
  constructor
  · rintro ⟨rfl, rfl⟩
    exact ⟨rfl, rfl⟩
  · rintro ⟨rfl, rfl⟩
    exact ⟨rfl, rfl⟩

theorem matches_textEnd_iff (hi : i ≤ text.length) :
    textEnd.Matches text i j ↔ i = text.length ∧ j = text.length := by
  rw [textEnd, Matches, Option.isNone_iff_eq_none, List.getElem?_eq_none_iff]
  constructor
  · rintro ⟨rfl, hend⟩
    exact ⟨Nat.le_antisymm hi hend, Nat.le_antisymm hi hend⟩
  · rintro ⟨rfl, rfl⟩
    exact ⟨rfl, Nat.le_refl _⟩

/-- Behind an anchor, an expression matches from the start of a text only. -/
theorem matches_textStart_seq_iff (hi : i ≤ text.length) :
    (seq textStart e).Matches text i j ↔ i = 0 ∧ e.Matches text 0 j := by
  rw [Matches]
  constructor
  · rintro ⟨k, hstart, he⟩
    obtain ⟨rfl, rfl⟩ := (matches_textStart_iff hi).mp hstart
    exact ⟨rfl, he⟩
  · rintro ⟨rfl, he⟩
    exact ⟨0, (matches_textStart_iff hi).mpr ⟨rfl, rfl⟩, he⟩

/-- In front of an anchor, an expression matches up to the end of a text only. -/
theorem matches_seq_textEnd_iff (hi : i ≤ text.length) :
    (seq e textEnd).Matches text i j ↔ j = text.length ∧ e.Matches text i text.length := by
  rw [Matches]
  constructor
  · rintro ⟨k, he, hend⟩
    obtain ⟨rfl, rfl⟩ := (matches_textEnd_iff (he.le_length hi)).mp hend
    exact ⟨rfl, he⟩
  · rintro ⟨rfl, he⟩
    exact ⟨_, he, (matches_textEnd_iff (Nat.le_refl _)).mpr ⟨rfl, rfl⟩⟩

/-! ## Equivalence -/

theorem Equivalent.refl (e : Expression) : e.Equivalent e := fun _ _ _ _ ↦ Iff.rfl

theorem Equivalent.trans (hef : e.Equivalent f) (hfg : f.Equivalent g) : e.Equivalent g :=
  fun text i j hi ↦ (hef text i j hi).trans (hfg text i j hi)

theorem Equivalent.seq {e' f' : Expression} (he : e.Equivalent e') (hf : f.Equivalent f') :
    (seq e f).Equivalent (seq e' f') := by
  intro text i j hi
  constructor
  · rintro ⟨k, hfirst, hsecond⟩
    exact ⟨k, (he text i k hi).mp hfirst, (hf text k j (hfirst.le_length hi)).mp hsecond⟩
  · rintro ⟨k, hfirst, hsecond⟩
    exact ⟨k, (he text i k hi).mpr hfirst, (hf text k j (hfirst.le_length hi)).mpr hsecond⟩

theorem equivalent_assoc (e f g : Expression) :
    (seq (seq e f) g).Equivalent (seq e (seq f g)) := by
  intro text i j _
  constructor
  · rintro ⟨l, ⟨k, he, hf⟩, hg⟩
    exact ⟨k, he, l, hf, hg⟩
  · rintro ⟨k, he, l, hf, hg⟩
    exact ⟨l, ⟨k, he, hf⟩, hg⟩

theorem equivalent_empty_seq (e : Expression) : (seq empty e).Equivalent e := by
  intro text i j _
  constructor
  · rintro ⟨k, rfl, he⟩
    exact he
  · intro he
    exact ⟨i, rfl, he⟩

end Expression

end Morphology
