import Mathlib.Data.List.Induction
import Morphology.Listable
import Morphology.Proofs.Search.Chart

/-!
# Histories of a chart

A chart that nodes were added to, one after the other, has the first node of each item that was
added. Its nodes are numbered in the order in which their items came up for the first time, and the
numbers that are noted for the items and for the places are those of these nodes.
-/

namespace Morphology.Chart

/-- What a chart is that nodes were added to in the order of a history. -/
structure Records (chart : Chart) (history : List Node) : Prop where
  /-- The numbers of the nodes are those from zero on. -/
  get?_iff {id : Nat} : (∃ node, chart.get? id = some node) ↔ id < chart.size
  /-- Every item has one node, and the nodes are in the order in which their items first occur. -/
  items_eq : chart.items = (history.map Node.toItem).eraseDups
  /-- A node is the first one with its item. -/
  first {id : Nat} {node : Node} : chart.get? id = some node →
    history.find? (·.toItem = node.toItem) = some node
  /-- Whatever else is added, a node keeps its number. -/
  stays {id : Nat} {node : Node} (more : List Node) : chart.get? id = some node →
    (chart.insertAll more).2.get? id = some node
  distinct : chart.items.Nodup
  /-- The number noted for an item is that of its node. -/
  find?_iff {item : Item} {id : Nat} : chart.find? item = some id ↔
    ∃ node, chart.get? id = some node ∧ node.toItem = item
  /-- A node is dropped just if there is a node with its item. -/
  drops_iff {node : Node} : chart.insert node = (none, chart) ↔ node.toItem ∈ chart.items
  /-- Otherwise it gets the next number. -/
  adds {node : Node} : node.toItem ∉ chart.items → (chart.insert node).1 = some chart.size ∧
    (chart.insert node).2.get? chart.size = some node
  /-- The nodes noted for a place are those that start there, each of them once. -/
  increasing {place : Nat} : (chart.startingAt place).Pairwise (· < ·)
  mem_startingAt_iff {place id : Nat} : id ∈ chart.startingAt place ↔
    ∃ node, chart.get? id = some node ∧ node.start = place

variable {chart : Chart} {node : Node} {history : List Node} {id : Nat}

theorem exists_get?_iff : (∃ node, chart.get? id = some node) ↔ id < chart.size := by
  constructor
  · rintro ⟨node, hnode⟩
    exact lt_size_of_get? hnode
  · intro hid
    exact ⟨_, Array.getElem?_eq_getElem hid⟩

theorem insert_eq_iff : chart.insert node = (none, chart) ↔ node.toItem ∈ chart.items := by
  refine ⟨fun hsame ↦ ?_, insert_of_mem⟩
  by_contra hnew
  rw [insert_of_not_mem hnew] at hsame
  exact absurd (congrArg Prod.fst hsame) nofun

/-- One more node of a history is added to what the history has left behind. -/
theorem insertAll_concat (chart : Chart) (history : List Node) (node : Node) :
    (chart.insertAll (history ++ [node])).2 = ((chart.insertAll history).2.insert node).2 := by
  rw [insertAll_append]
  rfl

theorem items_history (history : List Node) :
    ((∅ : Chart).insertAll history).2.items = (history.map Node.toItem).eraseDups := by
  induction history using List.reverseRecOn with
  | nil => rfl
  | append_singleton history node ih =>
    rw [insertAll_concat, items_insert, ih, List.map_append, List.map_singleton, eraseDups_concat]
    simp only [List.mem_eraseDups]

theorem first_of_history (h : ((∅ : Chart).insertAll history).2.get? id = some node) :
    history.find? (·.toItem = node.toItem) = some node := by
  induction history using List.reverseRecOn with
  | nil => exact absurd (mem_nodes_iff.mpr ⟨id, h⟩) (not_mem_nodes_empty node)
  | append_singleton history last ih =>
    rw [insertAll_concat] at h
    rw [List.find?_append]
    rcases get?_insert.mp h with hearlier | ⟨-, rfl, hnew⟩
    · rw [ih hearlier, Option.some_or]
    · -- The node is new, so that no node before it has its item.
      rw [items_history, List.mem_eraseDups] at hnew
      have hnone : history.find? (·.toItem = node.toItem) = none := by
        rw [List.find?_eq_none]
        exact fun other hother hsame ↦
          hnew (List.mem_map.mpr ⟨other, hother, of_decide_eq_true hsame⟩)
      rw [hnone, Option.none_or]
      simp

/-- Adding nodes one after the other, whatever their items and origins are and wherever they start,
makes a chart that records them. -/
theorem records_history (history : List Node) :
    ((∅ : Chart).insertAll history).2.Records history where
  get?_iff := exists_get?_iff
  items_eq := items_history history
  first := first_of_history
  stays more := extends_insertAll _ more _ _
  distinct := nodup_items _
  find?_iff := find?_eq_some_iff
  drops_iff := insert_eq_iff
  adds hnew := by
    rw [insert_of_not_mem hnew]
    exact ⟨rfl, Array.getElem?_push_size⟩
  increasing := pairwise_startingAt _ _
  mem_startingAt_iff := mem_startingAt

end Morphology.Chart
