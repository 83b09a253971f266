import Morphology.Proofs.Analysis.Leaves
import Morphology.Proofs.Analysis.OrderIndependence
import Morphology.Proofs.Search.Stages

/-!
# Cuts and leaves

At every stage of a search, the cuts of a node are the places strictly inside of its stretch where a
leaf of its derivation ends or, what is the same, where a leaf starts; leaves without any characters
make no difference. Two trees of an analysis differ in their tags, in their structures or in these
places.
-/

namespace Morphology

/-- Strictly inside of a derivation, a leaf starts wherever one ends. -/
theorem Derivation.Tiled.mem_starts_iff {d : Derivation} (h : d.Tiled) {place : Nat}
    (hstart : d.start < place) (hstop : place < d.stop) :
    place ∈ d.leaves.map (·.start) ↔ place ∈ d.leaves.map (·.stop) := by
  have hends : d.leaves.map (·.start) ++ [d.stop] = d.start :: d.leaves.map (·.stop) := by
    have hadjacent := h.adjacent_leaves.starts_append
    rw [List.map_map, List.map_map] at hadjacent
    exact hadjacent
  calc
    place ∈ d.leaves.map (·.start) ↔ place ∈ d.leaves.map (·.start) ++ [d.stop] := by
      rw [List.mem_append, List.mem_singleton, or_iff_left (Nat.ne_of_lt hstop)]
    _ ↔ place ∈ d.start :: d.leaves.map (·.stop) := by rw [hends]
    _ ↔ place ∈ d.leaves.map (·.stop) := by
      rw [List.mem_cons, or_iff_right (Nat.ne_of_gt hstart)]

/-- The cuts of a node are in increasing order, and they are the places strictly inside of its
stretch where leaves of a derivation end or start. -/
structure Node.CutBy (node : Node) (d : Derivation) : Prop where
  increasing : node.cuts.Pairwise (· < ·)
  mem_iff_stop : ∀ place, place ∈ node.cuts ↔
    node.start < place ∧ place < node.stop ∧ place ∈ d.leaves.map (·.stop)
  mem_iff_start : ∀ place, place ∈ node.cuts ↔
    node.start < place ∧ place < node.stop ∧ place ∈ d.leaves.map (·.start)

theorem Chart.exists_cutBy {grammar : Grammar} {text : List Char} {chart : Chart}
    (h : chart.Justified grammar text) {id : Nat} {node : Node} (hnode : chart.get? id = some node) :
    ∃ d, (chart.derivations grammar.rules text)[id]? = some d ∧ node.CutBy d := by
  have hd : (chart.derivations grammar.rules text)[id]? = _ := getElem?_derivations h hnode
  have hstops := (marks_ends h id hnode).mem_cuts
  refine ⟨_, hd, cuts_increasing h hnode, hstops, fun place ↦ (hstops place).trans ?_⟩
  refine and_congr_right fun hstart ↦ and_congr_right fun hstop ↦ ?_
  exact ((tiled_of_derivations h hd).mem_starts_iff hstart hstop).symm

namespace Grammar

/-- No two trees of an analysis have the same outline. -/
theorem nodup_outlines {grammar : Grammar} {options : Options} {text : String} {a : Analysis}
    (h : grammar.analyzeWith options text = .ok a) : (a.trees.map Derivation.outline).Nodup := by
  obtain ⟨items, houtlines, hnodup, hitems⟩ := outlines_of_analyzeWith h
  rw [houtlines]
  refine hnodup.map_on fun item hitem other hother hsame ↦ ?_
  obtain ⟨-, hstart, hstop, -⟩ := (hitems item).mp hitem
  obtain ⟨-, hstart', hstop', -⟩ := (hitems other).mp hother
  obtain ⟨htag, hrest⟩ := Prod.mk.inj hsame
  obtain ⟨hfeatures, hcuts⟩ := Prod.mk.inj hrest
  cases item
  cases other
  rw [Item.mk.injEq]
  exact ⟨hstart.trans hstart'.symm, hstop.trans hstop'.symm, htag, hfeatures, hcuts⟩

/-- At every stage of a search, the cuts of a node tell where the leaves of its derivation end and
where they start, and no two trees of an analysis have the same tag, the same structure and leaves
that end at the same places. -/
theorem cuts_mark_leaves (grammar : Grammar) (text : String) :
    (∀ chart, grammar.GoesThrough text.toList chart → ∀ id node, chart.get? id = some node →
      ∃ d, (chart.derivations grammar.rules text.toList)[id]? = some d ∧ node.CutBy d) ∧
    ∀ options a, grammar.analyzeWith options text = .ok a → a.trees.Pairwise fun x y ↦
      ¬ (x.tag = y.tag ∧ x.features = y.features ∧ ∀ place, 0 < place → place < text.length →
        (place ∈ x.leaves.map (·.stop) ↔ place ∈ y.leaves.map (·.stop))) := by
  refine ⟨fun chart h id node ↦ Chart.exists_cutBy h.justified, fun options a h ↦ ?_⟩
  obtain ⟨s, hyields, htrees⟩ := yields_of_analyzeWith h
  have hends := ends_of_mem_trees (justified_of_search hyields)
  rw [← htrees, String.length_toList] at hends
  -- Boundaries are listed in increasing order, so that the same places are the same boundaries.
  refine (List.pairwise_map.mp (nodup_outlines h)).imp_of_mem fun hx hy hdiffer hsame ↦ hdiffer ?_
  obtain ⟨htag, hfeatures, hplaces⟩ := hsame
  refine Prod.ext htag (Prod.ext hfeatures ?_)
  apply List.Pairwise.eq_of_mem_iff (r := (· < ·)) (Derivation.boundaries_increasing _)
    (Derivation.boundaries_increasing _)
  intro place
  rw [Derivation.mem_boundaries, Derivation.mem_boundaries, (hends _ hx).1, (hends _ hx).2,
    (hends _ hy).1, (hends _ hy).2]
  exact and_congr_right fun hstart ↦ and_congr_right fun hstop ↦ hplaces place hstart hstop

/-- A grammar of words that consist of two pieces of one or two characters. -/
def splits : Grammar where
  symbols := .ofNames ["piece", "word"]
  lexicon := ∅
  rules :=
    { morphs := [⟨"piece", some ⟨0⟩, [.read (.any 1 (some 2))]⟩]
      productions := [⟨"pair", [.any, .any], ⟨1⟩, []⟩]
      accepted := [⟨1⟩] }
  rules_valid := by rfl
  lexicon_valid := by rfl

/-- Three characters can be cut in three ways, each of which is an analysis. -/
theorem cuts_mark_leaves_splits : ∃ a, splits.analyzeWith {} "aaa" = .ok a ∧
    a.trees.map Derivation.boundaries = [[1], [2], [1, 2]] ∧
    (∃ chart id node d, splits.GoesThrough "aaa".toList chart ∧ chart.get? id = some node ∧
      node.cuts = [1, 2] ∧ (chart.derivations splits.rules "aaa".toList)[id]? = some d ∧
        node.CutBy d) ∧
    a.trees.Pairwise fun x y ↦
      ¬ (x.tag = y.tag ∧ x.features = y.features ∧ ∀ place, 0 < place → place < "aaa".length →
        (place ∈ x.leaves.map (·.stop) ↔ place ∈ y.leaves.map (·.stop))) := by
  have htrees : (splits.treesIn {} "aaa" 4).map (·.map Derivation.boundaries) =
      some [[1], [2], [1, 2]] := by
    decide +kernel
  obtain ⟨trees, hin, htrees⟩ := Option.map_eq_some_iff.mp htrees
  obtain ⟨a, ha, rfl⟩ := analyzeWith_of_treesIn hin
  obtain ⟨s, hyields, hshown⟩ := yields_of_analyzeWith ha
  have hchart := GoesThrough.passing s (reaches_of_search hyields)
  obtain ⟨hnodes, hdiffer⟩ := cuts_mark_leaves splits "aaa"
  refine ⟨a, ha, htrees, ?_, hdiffer {} a ha⟩
  have hmem : [1, 2] ∈ a.trees.map Derivation.boundaries := by simp [htrees]
  obtain ⟨tree, htree, hboundaries⟩ := List.mem_map.mp hmem
  rw [hshown] at htree
  obtain ⟨id, -, hid⟩ := List.mem_filterMap.mp htree
  obtain ⟨node, hnode, rfl⟩ := Chart.exists_node_of_derivations hchart.justified hid
  obtain ⟨d, hd, hcut⟩ := hnodes s.chart hchart id node hnode
  rw [Chart.boundaries_derivation hchart.justified hnode] at hboundaries
  exact ⟨s.chart, id, node, d, hchart, hnode, hboundaries, hd, hcut⟩

end Grammar

end Morphology
