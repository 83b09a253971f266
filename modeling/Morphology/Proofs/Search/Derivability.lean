import Morphology.Proofs.Search.Justification

/-!
# Derivable items

What a grammar says about a text is said without a search: an item is derivable if it is a morph
somewhere in the text, or if a production makes it of derivable items. A search finds derivable
items only. It does not look at places that no chain of morphs leads to, but whatever covers the
text as a whole consists of morphs that it does find.
-/

namespace Morphology.Grammar

variable {grammar : Grammar} {text : List Char} {item : Item}

/-- What can be said about a text with the rules of a grammar: the least set of items that has all
morphs at all places of the text and is closed under all productions. -/
inductive Derivable (grammar : Grammar) (text : List Char) : Item → Prop
  | morph (rule place : Nat) (morph : Morph) (place_le : place ≤ text.length)
      (found : grammar.FindsMorph text rule place morph) :
      Derivable grammar text
        { start := place, stop := morph.stop, tag := morph.tag, features := morph.features, cuts := [] }
  | production (rule : Production) (children : List Item) (item : Item)
      (rule_mem : rule ∈ grammar.rules.productions)
      (derivable : ∀ child ∈ children, Derivable grammar text child)
      (makes : rule.Makes children item) : Derivable grammar text item

/-- The items of a justified chart are derivable. -/
theorem derivable_of_justified {chart : Chart} (h : chart.Justified grammar text) {id : Nat}
    {node : Node} (hnode : chart.get? id = some node) : grammar.Derivable text node.toItem := by
  induction id using Nat.strongRecOn generalizing node with
  | _ id ih =>
    cases h id node hnode with
    | morph rule origin_eq found start_le cuts_eq =>
      have hitem := Derivable.morph rule node.start _ start_le found
      rw [← cuts_eq] at hitem
      exact hitem
    | production route rule nodes admits earlier made =>
      have hmakes := (makes_of_admits admits made).1
      refine .production rule _ _ (List.mem_of_getElem? admits.rule_eq) (fun child hchild ↦ ?_) hmakes
      obtain ⟨made, hmade, rfl⟩ := List.mem_map.mp hchild
      rw [← admits.lists.filterMap_eq] at hmade
      obtain ⟨number, hnumber, hget⟩ := List.mem_filterMap.mp hmade
      exact ih number (earlier number hnumber) hget

section

variable {segmented chart : Chart}

/-- A derivable item that starts at a visited place is in the chart, and it stops at a visited
place. -/
theorem mem_items_of_derivable (hcovers : Segmentation.Covers grammar text (text.length + 1) segmented)
    (hextends : chart.Extends segmented)
    (hclosed : Saturation.Closed grammar.rules.productions chart)
    (h : grammar.Derivable text item) (hstart : Segmentation.Visited segmented item.start) :
    item ∈ chart.items ∧ Segmentation.Visited segmented item.stop := by
  induction h with
  | morph rule place morph place_le found =>
    have hmem := hcovers.complete place (Nat.lt_succ_of_le place_le) hstart rule morph found
    obtain ⟨id, node, hnode, hitem⟩ := Chart.mem_items.mp hmem
    refine ⟨hextends.mem_items hmem,
      .inr (Chart.reaches_iff.mpr ⟨node, Chart.mem_nodes_iff.mpr ⟨id, hnode⟩, ?_⟩)⟩
    exact congrArg Item.stop hitem
  | production rule children item rule_mem _ makes ih =>
    obtain ⟨hstarts, hstop⟩ :=
      makes.adjacent.chain hstart fun child hchild hvisited ↦ (ih child hchild hvisited).2
    have hall (child : Item) (hchild : child ∈ children) : child ∈ chart.items :=
      (ih child hchild (hstarts child hchild)).1
    exact ⟨hclosed rule rule_mem children hall item makes, hstop⟩

end

/-- The chart that a search leaves extends that of its segmentation, and nothing can be made of its
items that it does not have. -/
theorem closed_of_search {segmentation : PassCounts} {s : Saturation} {passes : List PassCounts}
    (h : (grammar.search text).Yields (segmentation, s, passes)) :
    ∃ progress, (Segmentation.run grammar text).Yields progress ∧
      s.chart.Extends progress.chart ∧ Saturation.Closed grammar.rules.productions s.chart := by
  obtain ⟨progress, hprogress, hrun⟩ := parts_of_search h
  have hvalid : ∀ rule ∈ grammar.rules.productions, rule.validate grammar.symbols = .ok () :=
    fun _ ↦ grammar.validate_production
  have hextends : s.chart.Extends progress.chart :=
    Saturation.keeps_of_run (fun s ↦ s.chart.Extends progress.chart)
      (fun _ _ _ hs hpass ↦ (Saturation.extends_of_pass hpass).trans hs) (.refl _) hrun
  exact ⟨progress, hprogress, hextends, Saturation.closed_of_run hvalid
    (Saturation.settled_initial hvalid progress.chart) hrun⟩

/-- The nodes of a search that start where the text does have just the derivable items. -/
theorem mem_items_iff_derivable {segmentation : PassCounts} {s : Saturation}
    {passes : List PassCounts} (h : (grammar.search text).Yields (segmentation, s, passes))
    (hstart : item.start = 0) : item ∈ s.chart.items ↔ grammar.Derivable text item := by
  constructor
  · intro hitem
    obtain ⟨id, node, hnode, rfl⟩ := Chart.mem_items.mp hitem
    exact derivable_of_justified (justified_of_search h) hnode
  · intro hitem
    obtain ⟨progress, hprogress, hextends, hclosed⟩ := closed_of_search h
    have hcovers := Segmentation.covers_of_run hprogress
    exact (mem_items_of_derivable hcovers hextends hclosed hitem (.inl hstart)).1

end Morphology.Grammar
