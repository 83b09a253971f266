import Mathlib.Algebra.Ring.Nat
import Morphology.Listable
import Morphology.Proofs.Grammar.Reordering
import Morphology.Proofs.Search.Inheritance

/-!
# Collected readings

A lexicon that readings were added to, one after the other, has each of them once. The number of
readings and the length of the longest stem, which are brought up to date with every new reading,
are those of what has been collected, whether readings are repeated or not.
-/

namespace Morphology.Lexicon

/-- What a lexicon is that readings were added to in a given order. -/
structure Collects (lexicon : Lexicon) (entries : List (String × Reading)) : Prop where
  /-- A stem has the readings that were added to it, in the order in which they first came. -/
  readings_eq (stem : String) :
    lexicon.readings stem = ((entries.filter (·.1 = stem)).map (·.2)).eraseDups
  contains_iff (stem : String) : lexicon.contains stem ↔ lexicon.readings stem ≠ []
  /-- The readings are counted stem by stem. -/
  size_eq : lexicon.size =
    ((entries.map (·.1)).eraseDups.map fun stem ↦ (lexicon.readings stem).length).sum
  isEmpty_iff : lexicon.isEmpty ↔ entries = []
  /-- The length of the longest stem is the greatest of all, and zero if there is no stem. -/
  longestStem_eq : lexicon.longestStem = (entries.map (·.1.length)).max?.getD 0
  /-- What is longer than the longest stem has no readings. -/
  readings_of_longer (stem : String) : lexicon.longestStem < stem.length → lexicon.readings stem = []
  /-- Every reading is listed once for each stem that has it. -/
  nodup_toList : lexicon.toList.Nodup
  mem_toList_iff (stem : String) (reading : Reading) :
    (stem, reading) ∈ lexicon.toList ↔ (stem, reading) ∈ entries

variable {lexicon : Lexicon} {stem : String} {reading : Reading}

/-- One more entry is added to what the entries before it have left behind. -/
theorem ofEntries_concat (entries : List (String × Reading)) (entry : String × Reading) :
    ofEntries (entries ++ [entry]) = (ofEntries entries).insert entry.1 entry.2 :=
  List.foldl_append

/-- The readings of a stem are stored in the order in which they were first added. -/
theorem readings_ofEntries_eq (entries : List (String × Reading)) (stem : String) :
    (ofEntries entries).readings stem =
      ((entries.filter (·.1 = stem)).map (·.2)).eraseDups := by
  induction entries using List.reverseRecOn with
  | nil => rfl
  | append_singleton entries entry ih =>
    rw [ofEntries_concat, readings_insert, List.filter_append, List.map_append]
    by_cases hstem : entry.1 = stem
    · subst hstem
      have hlast : ([entry].filter (·.1 = entry.1)).map (·.2) = [entry.2] := by simp
      rw [ih, hlast, eraseDups_concat]
      simp only [List.mem_eraseDups, true_and, ite_not]
    · simp [hstem, ih]

theorem length_le_longestStem (h : reading ∈ lexicon.readings stem) :
    stem.length ≤ lexicon.longestStem := by
  apply lexicon.length_le stem
  exact Lexicon.contains_iff.mpr (List.ne_nil_of_mem h)

/-- A reading that is known does not change the length of the longest stem, but neither would it if
it were added once more. -/
theorem longestStem_insert (lexicon : Lexicon) (stem : String) (reading : Reading) :
    (lexicon.insert stem reading).longestStem = max lexicon.longestStem stem.length := by
  unfold insert
  split
  next hknown =>
    have hmem : reading ∈ lexicon.readings stem := List.contains_iff_mem.mp hknown
    exact (Nat.max_eq_left (length_le_longestStem hmem)).symm
  next => rfl

theorem longestStem_ofEntries (entries : List (String × Reading)) :
    (ofEntries entries).longestStem = (entries.map (·.1.length)).max?.getD 0 := by
  have hfold : (ofEntries entries).longestStem = (entries.map (·.1.length)).foldl max 0 := by
    induction entries using List.reverseRecOn with
    | nil => rfl
    | append_singleton entries entry ih =>
      rw [ofEntries_concat, longestStem_insert, ih, List.map_append, List.foldl_append]
      rfl
  rw [hfold, List.foldl_max, Nat.zero_max]

theorem readings_of_mem_stems {entry : String × List Reading} (h : entry ∈ lexicon.stems.toList) :
    lexicon.readings entry.1 = entry.2 := by
  have hknown : lexicon.stems[entry.1]? = some entry.2 :=
    Std.TreeMap.mem_toList_iff_getElem?_eq_some.mp h
  rw [readings, Std.TreeMap.getD_eq_getD_getElem?, hknown, Option.getD_some]

theorem mem_toList_iff : (stem, reading) ∈ lexicon.toList ↔ reading ∈ lexicon.readings stem := by
  refine ⟨fun h ↦ ?_, mem_toList⟩
  obtain ⟨entry, hentry, hmem⟩ := List.mem_flatMap.mp h
  obtain ⟨r, hr, heq⟩ := List.mem_map.mp hmem
  obtain ⟨rfl, rfl⟩ := Prod.mk.inj heq
  exact (readings_of_mem_stems hentry).symm ▸ hr

/-- Stems are listed once, so a reading is listed once with each of its stems. -/
theorem nodup_toList (h : ∀ stem, (lexicon.readings stem).Nodup) : lexicon.toList.Nodup := by
  refine List.nodup_flatMap.mpr ⟨fun entry hentry ↦ ?_, ?_⟩
  · have hnodup : entry.2.Nodup := readings_of_mem_stems hentry ▸ h entry.1
    exact hnodup.map fun r s heq ↦ (Prod.mk.inj heq).2
  · refine Std.TreeMap.distinct_keys_toList.imp fun {first second} hne ↦ ?_
    intro p hp hq
    obtain ⟨r, -, rfl⟩ := List.mem_map.mp hp
    obtain ⟨s, -, heq⟩ := List.mem_map.mp hq
    exact hne (Std.LawfulEqCmp.compare_eq_iff_eq.mpr (Prod.mk.inj heq).1.symm)

theorem mem_stems_iff (entries : List (String × Reading)) :
    stem ∈ (ofEntries entries).stems ↔ stem ∈ entries.map (·.1) := by
  have hcontains : stem ∈ (ofEntries entries).stems ↔ (ofEntries entries).readings stem ≠ [] :=
    contains_iff
  rw [hcontains, List.ne_nil_iff_length_pos, List.length_pos_iff_exists_mem]
  simp only [(readings_ofEntries entries stem).2, List.mem_map, Prod.exists, exists_and_right,
    exists_eq_right]

/-- The readings are counted where they are. -/
theorem size_ofEntries (entries : List (String × Reading)) :
    (ofEntries entries).size = ((entries.map (·.1)).eraseDups.map fun stem ↦
      ((ofEntries entries).readings stem).length).sum := by
  let lexicon := ofEntries entries
  have hstems : lexicon.stems.keys.Perm (entries.map (·.1)).eraseDups := by
    apply (List.perm_ext_iff_of_nodup Std.TreeMap.nodup_keys (nodup_eraseDups _)).mpr
    intro stem
    rw [Std.TreeMap.mem_keys, mem_stems_iff, List.mem_eraseDups]
  calc
    lexicon.size = (lexicon.stems.toList.flatMap (·.2)).length := lexicon.size_eq
    _ = (lexicon.stems.toList.map (·.2.length)).sum := List.length_flatMap
    _ = (lexicon.stems.toList.map fun entry ↦ (lexicon.readings entry.1).length).sum := by
      congr 1
      exact List.map_congr_left fun entry hentry ↦ by rw [readings_of_mem_stems hentry]
    _ = (lexicon.stems.keys.map fun stem ↦ (lexicon.readings stem).length).sum := by
      rw [← Std.TreeMap.map_fst_toList_eq_keys, List.map_map]
      rfl
    _ = _ := (hstems.map _).sum_nat

theorem length_readings_le (lexicon : Lexicon) (stem : String) :
    (lexicon.readings stem).length ≤ lexicon.size := by
  rw [lexicon.size_eq, readings, Std.TreeMap.getD_eq_getD_getElem?]
  cases hknown : lexicon.stems[stem]? with
  | none => exact Nat.zero_le _
  | some known =>
    rw [((perm_toList hknown).flatMap_right _).length_eq, List.flatMap_cons, List.length_append]
    exact Nat.le_add_right ..

theorem isEmpty_iff (entries : List (String × Reading)) :
    (ofEntries entries).isEmpty ↔ entries = [] := by
  unfold isEmpty
  rw [beq_iff_eq]
  constructor
  · intro hzero
    apply List.eq_nil_iff_forall_not_mem.mpr
    intro entry hentry
    have hmem := ((readings_ofEntries entries entry.1).2 entry.2).mpr hentry
    have hlength := List.length_pos_of_mem hmem
    have hle := length_readings_le (ofEntries entries) entry.1
    omega
  · rintro rfl
    rfl

/-- Whatever readings are added to whatever stems, some of them repeatedly, the lexicon collects
them. -/
theorem collects_ofEntries (entries : List (String × Reading)) :
    (ofEntries entries).Collects entries where
  readings_eq := readings_ofEntries_eq entries
  contains_iff _ := Lexicon.contains_iff
  size_eq := size_ofEntries entries
  isEmpty_iff := Lexicon.isEmpty_iff entries
  longestStem_eq := longestStem_ofEntries entries
  readings_of_longer stem hlonger := by
    apply List.eq_nil_iff_forall_not_mem.mpr
    intro reading hreading
    exact absurd (length_le_longestStem hreading) (Nat.not_le_of_lt hlonger)
  nodup_toList := Lexicon.nodup_toList fun stem ↦ (readings_ofEntries entries stem).1
  mem_toList_iff stem reading := by
    rw [Lexicon.mem_toList_iff, (readings_ofEntries entries stem).2]

end Morphology.Lexicon
