import Morphology.Structure.Basic
import Std.Data.TreeMap.Lemmas

/-!
# Lexicon

A lexicon lists the readings of stems. Stems come in the order of their characters and the
readings of a stem in the order in which they were added; a reading is stored once. The number of
readings and the length of the longest stem are brought up to date with every reading that is new.
-/

namespace Morphology

/-- One way in which a stem can be read. -/
structure Reading where
  features : Structure
  tag : Symbol
deriving DecidableEq

structure Lexicon where
  /-- The readings of every stem that has any. -/
  stems : Std.TreeMap String (List Reading)
  /-- How many readings there are, over all stems. -/
  size : Nat
  /-- The number of characters of the longest stem; a longer text has no reading. -/
  longestStem : Nat
  ne_nil : ∀ (stem : String) (known : List Reading), stems[stem]? = some known → known ≠ []
  size_eq : size = (stems.toList.flatMap (·.2)).length
  length_le : ∀ stem ∈ stems, stem.length ≤ longestStem

namespace Lexicon

def empty : Lexicon where
  stems := ∅
  size := 0
  longestStem := 0
  ne_nil := by simp
  size_eq := rfl
  length_le := by simp

instance : EmptyCollection Lexicon := ⟨empty⟩
instance : Inhabited Lexicon := ⟨empty⟩

/-- The readings of a stem, none if the stem is unknown. -/
def readings (lexicon : Lexicon) (stem : String) : List Reading := lexicon.stems.getD stem []

def contains (lexicon : Lexicon) (stem : String) : Bool := lexicon.stems.contains stem

/-- A stem is known just if it has a reading. -/
theorem contains_iff {lexicon : Lexicon} {stem : String} :
    lexicon.contains stem ↔ lexicon.readings stem ≠ [] := by
  rw [contains, readings, Std.TreeMap.contains_eq_isSome_getElem?,
    Std.TreeMap.getD_eq_getD_getElem?]
  cases hknown : lexicon.stems[stem]? with
  | none => simp
  | some known => simpa using lexicon.ne_nil stem known hknown

def isEmpty (lexicon : Lexicon) : Bool := lexicon.size == 0

/-- A stem that is known can be listed before all others. -/
theorem perm_toList {stems : Std.TreeMap String (List Reading)} {stem : String}
    {known : List Reading} (h : stems[stem]? = some known) :
    stems.toList.Perm ((stem, known) :: stems.toList.filter fun entry ↦ ¬stem == entry.1) := by
  have hsame : (stems.insert stem known).Equiv stems := by
    apply Std.TreeMap.Equiv.of_forall_constGet?_eq
    intro other
    rw [Std.TreeMap.getElem?_insert]
    split
    next heq => rw [← h, Std.LawfulEqCmp.eq_of_compare heq]
    · rfl
  have hperm := Std.TreeMap.toList_insert_perm (t := stems) (k := stem) (v := known)
  rwa [hsame.toList_eq] at hperm

/-- A stem that is not known is listed nowhere. -/
theorem filter_toList {stems : Std.TreeMap String (List Reading)} {stem : String}
    (h : stems[stem]? = none) :
    (stems.toList.filter fun entry ↦ ¬stem == entry.1) = stems.toList := by
  rw [List.filter_eq_self]
  rintro ⟨other, known⟩ hmem
  have hfound : stems[other]? = some known := Std.TreeMap.mem_toList_iff_getElem?_eq_some.mp hmem
  have hne : stem ≠ other := fun heq ↦ by simp [← heq, h] at hfound
  simp [hne]

/-- Adds a reading that a stem does not have. -/
def push (lexicon : Lexicon) (stem : String) (reading : Reading) : Lexicon where
  stems := lexicon.stems.insert stem (lexicon.readings stem ++ [reading])
  size := lexicon.size + 1
  longestStem := max lexicon.longestStem stem.length
  ne_nil := by
    intro other known h
    rw [Std.TreeMap.getElem?_insert] at h
    split at h
    · rw [← Option.some.inj h]
      simp
    · exact lexicon.ne_nil other known h
  size_eq := by
    rw [(Std.TreeMap.toList_insert_perm.flatMap_right _).length_eq, List.flatMap_cons,
      List.length_append, List.length_append, List.length_singleton, lexicon.size_eq, readings,
      Std.TreeMap.getD_eq_getD_getElem?]
    cases h : lexicon.stems[stem]? with
    | none =>
      rw [filter_toList h, Option.getD_none, List.length_nil]
      omega
    | some known =>
      rw [((perm_toList h).flatMap_right _).length_eq, List.flatMap_cons, List.length_append,
        Option.getD_some]
      exact Nat.add_right_comm ..
  length_le := by
    intro other h
    rcases Std.TreeMap.mem_insert.mp h with heq | h
    · rw [← Std.LawfulEqCmp.eq_of_compare heq]
      exact Nat.le_max_right ..
    · exact Nat.le_trans (lexicon.length_le other h) (Nat.le_max_left ..)

/-- Adds a reading of a stem, unless the stem has it already. -/
def insert (lexicon : Lexicon) (stem : String) (reading : Reading) : Lexicon :=
  if (lexicon.readings stem).contains reading then lexicon else lexicon.push stem reading

theorem readings_insert (lexicon : Lexicon) (stem other : String) (reading : Reading) :
    (lexicon.insert stem reading).readings other =
      if stem = other ∧ reading ∉ lexicon.readings stem then lexicon.readings other ++ [reading]
      else lexicon.readings other := by
  by_cases hknown : reading ∈ lexicon.readings stem
  · simp [insert, hknown]
  · have hnew : lexicon.insert stem reading = lexicon.push stem reading := by
      simp [insert, hknown]
    by_cases hsame : stem = other
    · subst hsame
      rw [hnew, if_pos ⟨rfl, hknown⟩]
      simp [readings, push]
    · simp [hnew, hsame, readings, push, Std.TreeMap.getD_insert]

/-- Every reading with its stem. -/
def toList (lexicon : Lexicon) : List (String × Reading) :=
  lexicon.stems.toList.flatMap fun (stem, known) ↦ known.map (stem, ·)

end Lexicon

end Morphology
