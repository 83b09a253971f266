import Morphology.Proofs.Search.Inheritance

/-!
# Bounds of a search

Over one text, the rules and the lexicon of a grammar bring along finitely many texts and widths,
and the text itself has finitely many pieces. Whatever a search finds is made of these, and it is
not deeper than the limit, so that its items lie in a universe that is known beforehand. Every pass
but the last takes a new item out of it.
-/

namespace Morphology

/-! ## Material -/

/-- The material that an instruction brings along, other than pieces of the text and readings. -/
def Instruction.material : Instruction → Material
  | .unify features => features.material
  | .assign _ (.constant value) => value.material
  | .assign _ (.capture _) => {}
  | .assign _ .surface => {}
  | .read _ => {}
  | .openCapture _ => {}
  | .closeCapture _ => {}
  | .lookup _ => {}
  | .tag _ => {}
  | .choice _ => {}

/-- The material that a morph rule brings along. -/
def MorphRule.material (rule : MorphRule) : Material :=
  Material.joinAll Instruction.material (Instruction.basicsOfProgram rule.program)

/-- The material of all readings of a lexicon. -/
def Lexicon.material (lexicon : Lexicon) : Material :=
  Material.joinAll (fun entry ↦ entry.2.features.material) lexicon.toList

namespace MorphRule

variable {rule : MorphRule} {text : List Char} {m : Material}

/-- An instruction of a rule that brings along given material alone makes structures of it. -/
theorem fits_material (hrule : rule.material ≤ m) :
    ∀ i ∈ Instruction.basicsOfProgram rule.program, i.Fits m.trait := by
  intro i hi
  have hown := Material.joinAll_le.mp hrule i hi
  cases i with
  | unify features => exact hown
  | assign attr source =>
    cases source with
    | constant value => exact ⟨trivial, hown⟩
    | capture | surface => exact trivial
  | read | openCapture | closeCapture | lookup | tag | choice => exact trivial

theorem material_of_mem_ways {lexicon : Lexicon} {start : Nat} (hrule : rule.material ≤ m)
    (hlexicon : lexicon.material ≤ m) (htext : pieces text ⊆ m.texts) {s : Execution.State}
    (hs : s ∈ rule.ways text lexicon start) : s.features.material ≤ m := by
  have htrait : m.trait.features s.features :=
    Trait.of_mem_ways (fits_material hrule) (Material.joinAll_le.mp hlexicon)
      (fun _ hpiece ↦ Material.text_le.mpr (htext hpiece)) hs
  exact htrait

end MorphRule

/-! ## Items -/

namespace Grammar

/-- The bounds of all items that a search of a text can find. -/
def scope (grammar : Grammar) (text : List Char) : Scope where
  material := Material.join ⟨pieces text, 0⟩ (grammar.lexicon.material.join
    ((Material.joinAll MorphRule.material grammar.rules.morphs).join
      (Material.joinAll Production.material grammar.rules.productions)))
  depth := depthLimit
  extent := text.length

variable {grammar : Grammar} {text : List Char}

theorem closed_scope (grammar : Grammar) (text : List Char) :
    (grammar.scope text).Closed grammar.rules.productions where
  material_le := Material.joinAll_le.mp (Material.le_trans (Material.right_le_join _ _)
    (Material.le_trans (Material.right_le_join _ _) (Material.right_le_join _ _)))
  depthLimit_le := Nat.le_refl depthLimit

/-- A morph is within the bounds. -/
theorem FindsMorph.within {rule place : Nat} {morph : Morph}
    (h : grammar.FindsMorph text rule place morph) (hplace : place ≤ text.length) :
    (Segmentation.node rule place morph).Within (grammar.scope text) := by
  obtain ⟨mrule, hrule, hdepth, s, hs, hend⟩ := h.exists_way
  obtain ⟨tag, -, rfl⟩ := Option.map_eq_some_iff.mp hend
  obtain ⟨-, hstop⟩ := MorphRule.placed_of_mem_ways hplace hs
  have hbounds := Material.join_le.mp (Material.le_refl (grammar.scope text).material)
  obtain ⟨hlexicon, hrules⟩ := Material.join_le.mp hbounds.2
  have hmorphs := Material.joinAll_le.mp (Material.join_le.mp hrules).1
  constructor
  · exact hplace
  · exact hstop
  · exact MorphRule.material_of_mem_ways (hmorphs mrule (List.mem_of_getElem? hrule)) hlexicon
      hbounds.1.1 hs
  · exact hdepth
  · exact ⟨Nat.zero_le _, fun cut hcut ↦ absurd hcut List.not_mem_nil⟩

/-- All items of a justified chart are within the bounds. -/
theorem within_of_justified {chart : Chart} (h : chart.Justified grammar text) {id : Nat}
    {node : Node} (hnode : chart.get? id = some node) : node.Within (grammar.scope text) := by
  induction id using Nat.strongRecOn generalizing node with
  | _ id ih =>
    cases h id node hnode with
    | morph rule origin_eq found start_le cuts_eq =>
      have hwithin := found.within start_le
      unfold Segmentation.node at hwithin
      rw [← cuts_eq] at hwithin
      exact hwithin
    | production route rule nodes admits earlier made =>
      refine (closed_scope grammar text).within_makeNode (List.mem_of_getElem? admits.rule_eq)
        (fun child hchild ↦ ?_) made
      rw [← admits.lists.filterMap_eq] at hchild
      obtain ⟨number, hnumber, hget⟩ := List.mem_filterMap.mp hchild
      exact ih number (earlier number hnumber) hget

/-- The states that a search of a text gets to between its passes. -/
inductive Reaches (grammar : Grammar) (text : List Char) : Saturation → Prop
  | segmented (progress : Progress) (h : (Segmentation.run grammar text).Yields progress) :
      Reaches grammar text { chart := progress.chart }
  | passed (s t : Saturation) (counts : PassCounts) (hs : Reaches grammar text s)
      (h : (s.pass grammar.rules.productions (.ofRules grammar.rules.productions)).Yields
        (t, counts)) :
      Reaches grammar text t

/-- A search leaves the state that it gets to after its last pass. -/
theorem reaches_of_search {segmentation : PassCounts} {s : Saturation} {passes : List PassCounts}
    (h : (grammar.search text).Yields (segmentation, s, passes)) : grammar.Reaches text s := by
  obtain ⟨progress, hprogress, hrun⟩ := parts_of_search h
  exact Saturation.keeps_of_run (grammar.Reaches text) (fun s t counts ↦ .passed s t counts)
    (.segmented progress hprogress) hrun

theorem Reaches.justified {s : Saturation} (h : grammar.Reaches text s) :
    s.chart.Justified grammar text := by
  induction h with
  | segmented progress h => exact Segmentation.justified_of_covers (Segmentation.covers_of_run h)
  | passed s t counts _ h ih => exact Saturation.justified_of_pass ih h

/-- At any time, the items of a search are within its bounds. -/
theorem Reaches.within {s : Saturation} (h : grammar.Reaches text s) :
    ∀ item ∈ s.chart.items, item.Within (grammar.scope text) := by
  intro item hitem
  obtain ⟨id, node, hnode, rfl⟩ := Chart.mem_items.mp hitem
  exact within_of_justified h.justified hnode

end Grammar

/-! ## Passes -/

namespace Saturation

variable {rules : List Production} {s t : Saturation} {counts : PassCounts}

theorem size_of_pass (h : (s.pass rules (.ofRules rules)).Yields (t, counts)) :
    t.chart.size = s.chart.size + counts.produced := by
  obtain ⟨p, -, hchart, -, -, hproduced⟩ := chart_of_pass h
  calc
    t.chart.size = (s.chart.insertAll p.found.reverse).2.size := by rw [hchart]
    _ = s.chart.size + (s.chart.insertAll p.found.reverse).1 := Chart.size_insertAll ..
    _ = _ := by rw [hproduced]

/-- A pass that is not the last one adds an item. -/
theorem exists_new_item (h : (s.pass rules (.ofRules rules)).Yields (t, counts))
    (hproductive : counts.produced ≠ 0) : ∃ item ∈ t.chart.items, item ∉ s.chart.items := by
  have hsize := size_of_pass h
  refine Classical.byContradiction fun hnone ↦ ?_
  have hsubset : t.chart.items ⊆ s.chart.items := fun item hitem ↦
    Classical.byContradiction fun hnew ↦ hnone ⟨item, hitem, hnew⟩
  have hlength := List.Nodup.length_le_of_subset t.chart.distinct hsubset
  rw [Chart.length_items] at hlength
  have ht : (t.chart.nodes.toList.map Node.toItem).length = t.chart.size := t.chart.length_items
  omega

/-- Makes so many passes at most; there is no result if the last of them still finds something. -/
def passes (rules : List Production) (s : Saturation) :
    Nat → Search (Option (Saturation × List PassCounts))
  | 0 => pure none
  | n + 1 => do
    let (t, counts) ← s.pass rules (.ofRules rules)
    if counts.produced = 0 then return some (t, [counts])
    else
      let later ← t.passes rules n
      return later.map fun (final, later) ↦ (final, counts :: later)

/-- Passes that come to an end within their number are those of a run. -/
theorem run_of_passes {n : Nat} {s : Saturation} {found : Saturation × List PassCounts}
    {b after : Budget} (h : (s.passes rules n).outcome b = (.ok (some found), after)) :
    (s.run rules).outcome b = (.ok found, after) := by
  induction n generalizing s found b with
  | zero => exact absurd (congrArg Prod.fst h) nofun
  | succ n ih =>
    obtain ⟨⟨t, counts⟩, middle, hpass, h⟩ := Search.exists_outcome_of_bind h
    rw [run_eq, Search.outcome_bind_of_ok _ hpass]
    by_cases hlast : counts.produced = 0
    · simp only [if_pos hlast, Search.outcome_pure] at h ⊢
      obtain ⟨hfound, rfl⟩ := Prod.mk.inj h
      rw [Option.some.inj (Except.ok.inj hfound)]
    · simp only [if_neg hlast] at h ⊢
      obtain ⟨later, last, hlater, h⟩ := Search.exists_outcome_of_bind h
      obtain ⟨hfound, rfl⟩ := Prod.mk.inj h
      cases later with
      | none => exact absurd (Except.ok.inj hfound) nofun
      | some rest =>
        rw [Search.outcome_bind_of_ok _ (ih hlater), ← Option.some.inj (Except.ok.inj hfound)]
        rfl

/-- Passes that fail within their number make a run fail. -/
theorem error_of_passes {n : Nat} {s : Saturation} {e : AnalysisError} {b after : Budget}
    (h : (s.passes rules n).outcome b = (.error e, after)) :
    (s.run rules).outcome b = (.error e, after) := by
  induction n generalizing s b with
  | zero => exact absurd (congrArg Prod.fst h) nofun
  | succ n ih =>
    rw [run_eq]
    rcases Search.cases_error_of_bind h with hpass | ⟨⟨t, counts⟩, middle, hpass, h⟩
    · exact Search.outcome_bind_of_error _ hpass
    · rw [Search.outcome_bind_of_ok _ hpass]
      by_cases hlast : counts.produced = 0
      · simp only [if_pos hlast] at h
        exact absurd (congrArg Prod.fst h) nofun
      · simp only [if_neg hlast] at h ⊢
        rcases Search.cases_error_of_bind h with hlater | ⟨_, _, _, hpure⟩
        · exact Search.outcome_bind_of_error _ (ih hlater)
        · exact absurd (congrArg Prod.fst hpure) nofun

/-- Where all items come from a finite universe, there is a pass for each of them at most, and one
more that finds nothing. -/
theorem passes_eq_run {possible : List Item} (keeps : Saturation → Prop)
    (hstep : ∀ s t counts, keeps s → (s.pass rules (.ofRules rules)).Yields (t, counts) → keeps t)
    (hpossible : ∀ s, keeps s → s.chart.items ⊆ possible) {n : Nat} {s : Saturation} (hs : keeps s)
    (hn : possible.length < s.chart.size + n) : s.passes rules n = some <$> s.run rules := by
  induction n generalizing s with
  | zero =>
    have hlength := List.Nodup.length_le_of_subset s.chart.distinct (hpossible s hs)
    have hsize : (s.chart.nodes.toList.map Node.toItem).length = s.chart.size := s.chart.length_items
    omega
  | succ n ih =>
    rw [passes, run_eq, map_bind]
    refine Search.bind_congr_of_yields fun (t, counts) hpass ↦ ?_
    by_cases hlast : counts.produced = 0
    · simp [hlast]
    · have hsize := size_of_pass hpass
      have hlater := ih (hstep s t counts hs hpass) (by omega)
      simp [hlast, hlater]

end Saturation

namespace Grammar

variable {grammar : Grammar} {text : List Char}

/-- A search that makes so many passes at most. -/
def searchIn (grammar : Grammar) (text : List Char) (n : Nat) :
    Search (Option (PassCounts × Saturation × List PassCounts)) := do
  let segmented ← Segmentation.run grammar text
  let run ← Saturation.passes grammar.rules.productions { chart := segmented.chart } n
  return run.map fun (s, passes) ↦ (segmented.counts, s, passes)

/-- A search that comes to an end within its passes finds what an unbounded one does. -/
theorem search_of_searchIn {n : Nat} {found : PassCounts × Saturation × List PassCounts}
    {b after : Budget} (h : (grammar.searchIn text n).outcome b = (.ok (some found), after)) :
    (grammar.search text).outcome b = (.ok found, after) := by
  obtain ⟨segmented, middle, hsegmented, h⟩ := Search.exists_outcome_of_bind h
  obtain ⟨run, last, hrun, h⟩ := Search.exists_outcome_of_bind h
  obtain ⟨hfound, rfl⟩ := Prod.mk.inj h
  cases run with
  | none => exact absurd (Except.ok.inj hfound) nofun
  | some run =>
    unfold search
    rw [Search.outcome_bind_of_ok _ hsegmented,
      Search.outcome_bind_of_ok _ (Saturation.run_of_passes hrun),
      ← Option.some.inj (Except.ok.inj hfound)]
    rfl

/-- A search that fails within its passes fails without a bound on them. -/
theorem error_of_searchIn {n : Nat} {e : AnalysisError} {b after : Budget}
    (h : (grammar.searchIn text n).outcome b = (.error e, after)) :
    (grammar.search text).outcome b = (.error e, after) := by
  unfold search
  rcases Search.cases_error_of_bind h with hsegmented | ⟨segmented, middle, hsegmented, h⟩
  · exact Search.outcome_bind_of_error _ hsegmented
  · rw [Search.outcome_bind_of_ok _ hsegmented]
    rcases Search.cases_error_of_bind h with hrun | ⟨_, _, _, hpure⟩
    · exact Search.outcome_bind_of_error _ (Saturation.error_of_passes hrun)
    · exact absurd (congrArg Prod.fst hpure) nofun

end Grammar

end Morphology
