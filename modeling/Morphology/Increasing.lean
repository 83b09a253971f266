/-!
# Increasing lists of numbers

Finite sets of numbers, kept as strictly increasing lists. Sorting keeps repetitions, so only what
does not repeat is increasing when it is sorted.
-/

namespace Morphology

/-- Puts a number at its place in an increasing list, unless it is there already. -/
def insertIncreasing (n : Nat) : List Nat → List Nat
  | [] => [n]
  | m :: rest =>
    if n < m then n :: m :: rest
    else if n = m then m :: rest
    else m :: insertIncreasing n rest

/-- Puts some numbers, in any order, at their places in an increasing list. -/
def insertAllIncreasing (numbers increasing : List Nat) : List Nat :=
  numbers.foldr insertIncreasing increasing

@[simp] theorem mem_insertIncreasing {n m : Nat} {l : List Nat} :
    m ∈ insertIncreasing n l ↔ m = n ∨ m ∈ l := by
  induction l with
  | nil => simp [insertIncreasing]
  | cons a rest ih =>
    rw [insertIncreasing]
    split
    · simp
    · split
      next hsame => simp [hsame]
      · simp [ih, or_left_comm]

@[simp] theorem mem_insertAllIncreasing {m : Nat} {numbers l : List Nat} :
    m ∈ insertAllIncreasing numbers l ↔ m ∈ numbers ∨ m ∈ l := by
  induction numbers with
  | nil => simp [insertAllIncreasing]
  | cons a rest ih =>
    simp only [insertAllIncreasing, List.foldr_cons, mem_insertIncreasing] at ih ⊢
    simp [ih, or_assoc]

theorem pairwise_insertIncreasing {n : Nat} {l : List Nat} (h : l.Pairwise (· < ·)) :
    (insertIncreasing n l).Pairwise (· < ·) := by
  induction l with
  | nil => simp [insertIncreasing]
  | cons a rest ih =>
    obtain ⟨hleast, hsorted⟩ := List.pairwise_cons.mp h
    rw [insertIncreasing]
    split
    next hsmall =>
      refine List.pairwise_cons.mpr ⟨fun m hm ↦ ?_, h⟩
      rcases List.mem_cons.mp hm with rfl | hm
      · exact hsmall
      · exact Nat.lt_trans hsmall (hleast m hm)
    next hbig =>
      split
      · exact h
      next hother =>
        refine List.pairwise_cons.mpr ⟨fun m hm ↦ ?_, ih hsorted⟩
        rcases mem_insertIncreasing.mp hm with rfl | hm
        · omega
        · exact hleast m hm

theorem pairwise_insertAllIncreasing {numbers l : List Nat} (h : l.Pairwise (· < ·)) :
    (insertAllIncreasing numbers l).Pairwise (· < ·) := by
  induction numbers with
  | nil => exact h
  | cons a rest ih => exact pairwise_insertIncreasing ih

/-! ## Sorting -/

/-- Puts a number in front of the first one that is not smaller. -/
def insertInOrder (n : Nat) : List Nat → List Nat
  | [] => [n]
  | m :: rest => if n ≤ m then n :: m :: rest else m :: insertInOrder n rest

/-- The same numbers, each as often as before, in their order. -/
def inOrder (numbers : List Nat) : List Nat := numbers.foldr insertInOrder []

theorem perm_insertInOrder (n : Nat) (l : List Nat) : (insertInOrder n l).Perm (n :: l) := by
  induction l with
  | nil => exact .refl _
  | cons m rest ih =>
    rw [insertInOrder]
    split
    · exact .refl _
    · exact (ih.cons m).trans (.swap n m rest)

theorem perm_inOrder (numbers : List Nat) : (inOrder numbers).Perm numbers := by
  induction numbers with
  | nil => exact .refl _
  | cons n rest ih => exact (perm_insertInOrder n _).trans (ih.cons n)

theorem pairwise_insertInOrder {n : Nat} {l : List Nat} (h : l.Pairwise (· ≤ ·)) :
    (insertInOrder n l).Pairwise (· ≤ ·) := by
  induction l with
  | nil => simp [insertInOrder]
  | cons m rest ih =>
    obtain ⟨hleast, hsorted⟩ := List.pairwise_cons.mp h
    rw [insertInOrder]
    split
    next hsmall =>
      refine List.pairwise_cons.mpr ⟨fun k hk ↦ ?_, h⟩
      rcases List.mem_cons.mp hk with rfl | hk
      · exact hsmall
      · exact Nat.le_trans hsmall (hleast k hk)
    next hlarge =>
      refine List.pairwise_cons.mpr ⟨fun k hk ↦ ?_, ih hsorted⟩
      rcases List.mem_cons.mp ((perm_insertInOrder n rest).mem_iff.mp hk) with rfl | hk
      · exact Nat.le_of_not_le hlarge
      · exact hleast k hk

theorem pairwise_inOrder (numbers : List Nat) : (inOrder numbers).Pairwise (· ≤ ·) := by
  induction numbers with
  | nil => exact .nil
  | cons n rest ih => exact pairwise_insertInOrder ih

theorem increasing_inOrder {numbers : List Nat} (hdistinct : numbers.Nodup) :
    (inOrder numbers).Pairwise (· < ·) := by
  have hdistinct : (inOrder numbers).Nodup := (perm_inOrder numbers).nodup_iff.mpr hdistinct
  exact ((pairwise_inOrder numbers).and hdistinct).imp fun h ↦ Nat.lt_of_le_of_ne h.1 h.2

/-! ## Lengths -/

/-- An increasing list of numbers below `n` has at most `n` members. -/
theorem length_le_of_increasing {n : Nat} {l : List Nat} (h : l.Pairwise (· < ·))
    (hbelow : ∀ m ∈ l, m < n) : l.length ≤ n := by
  have hdistinct : l.Nodup := h.imp Nat.ne_of_lt
  have hnumbers : l ⊆ List.range n := fun m hm ↦ List.mem_range.mpr (hbelow m hm)
  simpa using hdistinct.length_le_of_subset hnumbers

end Morphology
