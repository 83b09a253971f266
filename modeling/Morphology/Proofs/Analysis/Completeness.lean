import Morphology.Proofs.Analysis.Trees
import Morphology.Proofs.Search.Derivability

/-!
# Completeness of analyses

The trees of an analysis correspond one by one to the derivable items that cover the text and have
an accepted tag. Whatever the search leaves out to save work, nothing that the rules say about the
text as a whole is lost, and nothing comes twice.
-/

namespace Morphology

namespace Chart

variable {grammar : Grammar} {text : List Char} {chart : Chart}

/-- The item of the node with a number. -/
def itemAt? (chart : Chart) (id : Nat) : Option Item := (chart.get? id).map Node.toItem

/-- What a derivation tells about its node. -/
def Shows (chart : Chart) (tree : Derivation) (item : Item) : Prop :=
  chart.itemAt? tree.node = some item ∧ tree.start = item.start ∧ tree.stop = item.stop ∧
    tree.tag = item.tag ∧ tree.features = item.features

theorem mem_accepting {rules : Rules} {length id : Nat} : id ∈ chart.accepting rules length ↔
    ∃ node, chart.get? id = some node ∧
      node.start = 0 ∧ node.stop = length ∧ rules.accepts node.tag := by
  unfold accepting
  rw [List.mem_filter, mem_startingAt]
  constructor
  · rintro ⟨⟨node, hnode, hstart⟩, haccepts⟩
    rw [hnode, Option.any_some, Bool.and_eq_true, beq_iff_eq] at haccepts
    exact ⟨node, hnode, hstart, haccepts⟩
  · rintro ⟨node, hnode, hstart, haccepts⟩
    rw [hnode, Option.any_some, Bool.and_eq_true, beq_iff_eq]
    exact ⟨⟨node, rfl, hstart⟩, haccepts⟩

/-- The items of the accepting nodes are the items that cover the text and have an accepted tag. -/
theorem mem_accepting_items {rules : Rules} {length : Nat} {nodes : List Node} {item : Item}
    (hlists : chart.Lists (chart.accepting rules length) nodes) :
    item ∈ nodes.map Node.toItem ↔
      item ∈ chart.items ∧ item.start = 0 ∧ item.stop = length ∧ rules.accepts item.tag := by
  rw [← hlists.filterMap_eq, mem_items, List.mem_map]
  constructor
  · rintro ⟨node, hnode, rfl⟩
    obtain ⟨id, hid, hget⟩ := List.mem_filterMap.mp hnode
    obtain ⟨other, hother, haccepts⟩ := mem_accepting.mp hid
    obtain rfl := Option.some.inj (hother.symm.trans hget)
    exact ⟨⟨id, other, hget, rfl⟩, haccepts⟩
  · rintro ⟨⟨id, node, hget, rfl⟩, haccepts⟩
    exact ⟨node, List.mem_filterMap.mpr ⟨id, mem_accepting.mpr ⟨node, hget, haccepts⟩, hget⟩, rfl⟩

theorem pairwise_accepting (chart : Chart) (rules : Rules) (length : Nat) :
    (chart.accepting rules length).Pairwise (· < ·) :=
  (pairwise_startingAt chart 0).filter _

theorem nodup_accepting (chart : Chart) (rules : Rules) (length : Nat) :
    (chart.accepting rules length).Nodup :=
  (chart.pairwise_accepting rules length).imp Nat.ne_of_lt

theorem exists_lists_accepting (chart : Chart) (rules : Rules) (length : Nat) :
    ∃ nodes, chart.Lists (chart.accepting rules length) nodes := by
  apply Lists.exists_of_ids
  intro id hid
  obtain ⟨node, hnode, -⟩ := mem_accepting.mp hid
  exact ⟨node, hnode⟩

/-- Nodes with given numbers are shown by their derivations, one by one. -/
theorem shows_derivations (h : chart.Justified grammar text) {ids : List Nat} {nodes : List Node}
    (hlists : chart.Lists ids nodes) : List.Forall₂ chart.Shows
      (ids.filterMap ((chart.derivations grammar.rules text)[·]?)) (nodes.map Node.toItem) := by
  induction hlists with
  | nil => exact .nil
  | @cons id node ids nodes hnode _ ih =>
    rw [List.filterMap_cons_some (getElem?_derivations h hnode)]
    refine .cons ⟨?_, rfl, rfl, rfl, rfl⟩ ih
    change (chart.get? id).map Node.toItem = _
    rw [hnode, Option.map_some]

end Chart

namespace Grammar

variable {grammar : Grammar}

theorem ends_of_mem_trees {text : List Char} {s : Saturation}
    (h : s.chart.Justified grammar text) :
    ∀ tree ∈ grammar.trees text s, tree.start = 0 ∧ tree.stop = text.length := by
  intro tree htree
  obtain ⟨id, haccepting, htree⟩ := List.mem_filterMap.mp htree
  obtain ⟨node, hnode, hstart, hstop, -⟩ := Chart.mem_accepting.mp haccepting
  obtain ⟨other, hother, rfl⟩ := Chart.exists_node_of_derivations h htree
  obtain rfl : node = other := Option.some.inj (hnode.symm.trans hother)
  exact ⟨hstart, hstop⟩

/-- The trees of an analysis show, one by one and each once, the derivable items that cover the
text and have an accepted tag. -/
theorem trees_show_derivable {options : Options} {text : String} {a : Analysis}
    (h : grammar.analyzeWith options text = .ok a) :
    ∃ segmentation s passes,
      (grammar.search text.toList).result = .ok (segmentation, s, passes) ∧
        ∃ items : List Item, List.Forall₂ s.chart.Shows a.trees items ∧ items.Nodup ∧
          ∀ item, item ∈ items ↔ grammar.Derivable text.toList item ∧ item.start = 0 ∧
            item.stop = text.length ∧ grammar.rules.accepts item.tag := by
  obtain ⟨segmentation, s, passes, hsearch, htrees⟩ := search_of_analyzeWith h
  have hyields := (metered_search grammar text.toList).yields_iff.mpr hsearch
  obtain ⟨nodes, hlists⟩ : ∃ nodes,
      s.chart.Lists (s.chart.accepting grammar.rules text.toList.length) nodes := by
    refine Chart.Lists.exists_of_ids fun id hid ↦ ?_
    obtain ⟨node, hnode, -⟩ := Chart.mem_accepting.mp hid
    exact ⟨node, hnode⟩
  refine ⟨segmentation, s, passes, hsearch, nodes.map Node.toItem, ?_, ?_, fun item ↦ ?_⟩
  · rw [htrees]
    exact Chart.shows_derivations (justified_of_search hyields) hlists
  · exact hlists.nodup_items (s.chart.nodup_accepting _ _)
  · rw [Chart.mem_accepting_items hlists, String.length_toList]
    exact and_congr_left fun hplaced ↦ mem_items_iff_derivable hyields hplaced.1

theorem trees_show_derivable_letters : ∃ a, letters.analyzeWith {} "aaa" = .ok a ∧
    a.trees.length = 1 ∧ ∃ segmentation s passes,
      (letters.search "aaa".toList).result = .ok (segmentation, s, passes) ∧
        ∃ items : List Item, List.Forall₂ s.chart.Shows a.trees items ∧ items.Nodup ∧
          ∀ item, item ∈ items ↔ letters.Derivable "aaa".toList item ∧ item.start = 0 ∧
            item.stop = "aaa".length ∧ letters.rules.accepts item.tag := by
  obtain ⟨a, ha, htrees⟩ := letters_analysis
  refine ⟨a, ha, ?_, trees_show_derivable ha⟩
  simpa using congrArg List.length htrees

end Grammar

end Morphology
