import Morphology.Proofs.Search.Bounds

/-!
# Stages of a search

A search adds one node after the other to its chart: the morphs that a rule finds at a place, and
what a pass has found, when the pass is over. Whenever it is stopped, by its limit or by a structure
that is too deep, the chart is at one of these stages, and it is justified at all of them.
-/

namespace Morphology

namespace Segmentation

/-- The rules that are offered at a place, in the order in which they are tried. -/
def offered (grammar : Grammar) (text : List Char) (place : Nat) : List Nat :=
  (MorphIndex.ofRules grammar.rules.morphs).candidates (activeRules grammar text) text[place]?

/-- A segmentation has come to a place, and some of the rules that are offered there were tried. -/
structure Tries (grammar : Grammar) (text : List Char) (place : Nat) (tried : List Nat)
    (progress : Progress) : Prop where
  place_le : place ≤ text.length
  /-- The places before it are worked through, and a node ends there if it is not the first. -/
  exists_before : ∃ before : Progress, ((List.range place).foldlM
      (visit grammar text (.ofRules grammar.rules.morphs) (activeRules grammar text))
        { chart := ∅ }).Yields before ∧ Visited before.chart place ∧
    (tried.foldlM (tryRule grammar text place) before).Yields progress
  tried_prefix : tried <+: offered grammar text place

variable {grammar : Grammar} {text : List Char} {place : Nat} {tried : List Nat}
  {progress : Progress}

theorem Tries.isLeaf (h : Tries grammar text place tried progress) :
    ∀ node ∈ progress.chart.nodes, ∃ earlier, earlier ≤ text.length ∧
      IsLeaf grammar text earlier node := by
  obtain ⟨before, hbefore, -, htried⟩ := h.exists_before
  have hcovers := covers_of_visits (Nat.le_succ_of_le h.place_le) hbefore
  intro node hnode
  rcases (grows_of_tryRules htried).isLeaf node hnode with hold | hleaf
  · obtain ⟨earlier, hearlier, hleaf⟩ := hcovers.isLeaf node hold
    exact ⟨earlier, Nat.le_of_lt (Nat.lt_of_lt_of_le hearlier h.place_le), hleaf⟩
  · exact ⟨place, h.place_le, hleaf⟩

end Segmentation

namespace Grammar

/-- The charts that a search goes through. -/
inductive GoesThrough (grammar : Grammar) (text : List Char) : Chart → Prop
  /-- Between two rules that are tried at a place. -/
  | trying (place : Nat) (tried : List Nat) (progress : Progress)
      (h : Segmentation.Tries grammar text place tried progress) :
      GoesThrough grammar text progress.chart
  /-- While the morphs are added that a rule finds at a place. -/
  | adding (place : Nat) (tried : List Nat) (progress : Progress) (id : Nat) (rule : MorphRule)
      (morphs : List Morph) (n : Nat) (h : Segmentation.Tries grammar text place tried progress)
      (next : tried ++ [id] <+: Segmentation.offered grammar text place)
      (rule_eq : grammar.rules.morphs[id]? = some rule)
      (found : (rule.run text grammar.lexicon place).Yields morphs) :
      GoesThrough grammar text
        (progress.chart.insertAll ((morphs.map (Segmentation.node id place)).take n)).2
  /-- During a pass and between two of them. -/
  | passing (s : Saturation) (h : grammar.Reaches text s) : GoesThrough grammar text s.chart
  /-- While the nodes are added that a pass has found. -/
  | producing (s : Saturation) (p : Saturation.Pass) (n : Nat) (h : grammar.Reaches text s)
      (found : ((s.chart.freshRoutes s.frontier grammar.rules.productions
        (.ofRules grammar.rules.productions)).foldlM
          (Saturation.Pass.tryRoute grammar.rules.productions s.chart)
            { attempted := s.attempted, rejected := s.rejected }).Yields p) :
      GoesThrough grammar text (s.chart.insertAll (p.found.reverse.take n)).2

/-- All charts that a search goes through are justified. -/
theorem GoesThrough.justified {grammar : Grammar} {text : List Char} {chart : Chart}
    (h : grammar.GoesThrough text chart) : chart.Justified grammar text := by
  cases h with
  | trying place tried progress h => exact Segmentation.justified_of_isLeaf h.isLeaf
  | adding place tried progress id rule morphs n h next rule_eq found =>
    have hrun := (rule.metered_run text grammar.lexicon place).yields_iff.mp found
    refine (Segmentation.justified_of_isLeaf h.isLeaf).insertAll fun node hnode _ _ ↦ ?_
    obtain ⟨morph, hmorph, rfl⟩ := List.mem_map.mp (List.mem_of_mem_take hnode)
    exact .morph id rfl ⟨rule, morphs, rule_eq, hrun, hmorph⟩ h.place_le rfl
  | passing s h => exact h.justified
  | producing s p n h found =>
    exact Saturation.justified_of_found h.justified rfl found fun node hnode ↦
      List.mem_reverse.mp (List.mem_of_mem_take hnode)

end Grammar

end Morphology
