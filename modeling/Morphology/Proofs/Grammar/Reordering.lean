import Morphology.Proofs.Grammar.Validity

/-!
# Reordered grammars

Two grammars that have the same symbols, the same rules and the same readings, but list the rules
in different orders and have collected the readings in different orders. Since a reading is stored
once, each stem has the same readings in both of them, in some order.
-/

namespace Morphology

namespace Lexicon

/-- The lexicon that collects readings of stems in a given order. -/
def ofEntries (entries : List (String × Reading)) : Lexicon :=
  entries.foldl (fun lexicon entry ↦ lexicon.insert entry.1 entry.2) ∅

theorem mem_readings_insert {lexicon : Lexicon} {stem other : String} {reading r : Reading} :
    r ∈ (lexicon.insert stem reading).readings other ↔
      r ∈ lexicon.readings other ∨ (stem, reading) = (other, r) := by
  rw [readings_insert, Prod.mk.injEq]
  split
  next hnew =>
    rw [List.mem_append, List.mem_singleton, eq_comm (a := r)]
    exact or_congr_right ⟨fun h ↦ ⟨hnew.1, h⟩, And.right⟩
  next hknown =>
    apply (or_iff_left_of_imp _).symm
    intro ⟨hstem, hreading⟩
    subst hstem hreading
    exact Classical.not_not.mp fun hmem ↦ hknown ⟨rfl, hmem⟩

theorem nodup_readings_insert {lexicon : Lexicon} {stem other : String} {reading : Reading}
    (h : ∀ other, (lexicon.readings other).Nodup) :
    ((lexicon.insert stem reading).readings other).Nodup := by
  rw [readings_insert]
  split
  next hnew =>
    obtain ⟨rfl, hmem⟩ := hnew
    exact List.nodup_append.mpr ⟨h stem, List.nodup_singleton reading,
      fun r hr r' hr' heq ↦ hmem (List.mem_singleton.mp hr' ▸ heq ▸ hr)⟩
  next => exact h other

theorem readings_ofEntries (entries : List (String × Reading)) (stem : String) :
    ((ofEntries entries).readings stem).Nodup ∧
      ∀ r, r ∈ (ofEntries entries).readings stem ↔ (stem, r) ∈ entries := by
  have hfold (lexicon : Lexicon) (hnodup : ∀ stem, (lexicon.readings stem).Nodup) :
      let filled := entries.foldl (fun lexicon entry ↦ lexicon.insert entry.1 entry.2) lexicon
      (filled.readings stem).Nodup ∧
        ∀ r, r ∈ filled.readings stem ↔ r ∈ lexicon.readings stem ∨ (stem, r) ∈ entries := by
    induction entries generalizing lexicon with
    | nil => exact ⟨hnodup stem, fun r ↦ by simp⟩
    | cons entry rest ih =>
      obtain ⟨hfilled, hmem⟩ :=
        ih (lexicon.insert entry.1 entry.2) fun other ↦ nodup_readings_insert hnodup
      refine ⟨hfilled, fun r ↦ ?_⟩
      rw [List.foldl_cons, hmem, mem_readings_insert, or_assoc, List.mem_cons,
        eq_comm (a := (stem, r))]
  have hempty (stem : String) : (∅ : Lexicon).readings stem = [] := rfl
  obtain ⟨hnodup, hmem⟩ := hfold ∅ fun stem ↦ by
    rw [hempty]
    exact List.nodup_nil
  simp only [hempty, List.not_mem_nil, false_or] at hmem
  exact ⟨hnodup, hmem⟩

/-- In which order readings are collected matters only for their order. -/
theorem perm_readings {entries entries' : List (String × Reading)} (h : entries.Perm entries')
    (stem : String) :
    ((ofEntries entries).readings stem).Perm ((ofEntries entries').readings stem) := by
  obtain ⟨hnodup, hmem⟩ := readings_ofEntries entries stem
  obtain ⟨hnodup', hmem'⟩ := readings_ofEntries entries' stem
  apply (List.perm_ext_iff_of_nodup hnodup hnodup').mpr
  intro r
  rw [hmem, hmem', h.mem_iff]

end Lexicon

namespace Grammar

/-- Two grammars differ only in the order of the rules and of the readings. -/
structure Reorders (a b : Grammar) : Prop where
  symbols_eq : a.symbols = b.symbols
  morphs_perm : a.rules.morphs.Perm b.rules.morphs
  productions_perm : a.rules.productions.Perm b.rules.productions
  accepted_eq : a.rules.accepted = b.rules.accepted
  /-- The same readings were collected in some order. -/
  lexicon : ∃ entries entries', entries.Perm entries' ∧
    a.lexicon = .ofEntries entries ∧ b.lexicon = .ofEntries entries'

theorem Reorders.symm {a b : Grammar} (h : a.Reorders b) : b.Reorders a where
  symbols_eq := h.symbols_eq.symm
  morphs_perm := h.morphs_perm.symm
  productions_perm := h.productions_perm.symm
  accepted_eq := h.accepted_eq.symm
  lexicon :=
    let ⟨entries, entries', hperm, ha, hb⟩ := h.lexicon
    ⟨entries', entries, hperm.symm, hb, ha⟩

theorem Reorders.perm_readings {a b : Grammar} (h : a.Reorders b) (stem : String) :
    (a.lexicon.readings stem).Perm (b.lexicon.readings stem) := by
  obtain ⟨entries, entries', hperm, ha, hb⟩ := h.lexicon
  rw [ha, hb]
  exact Lexicon.perm_readings hperm stem

end Grammar

end Morphology
