import Morphology.Search.Chart

/-!
# Growth of the chart

A chart only grows: a node keeps its number, new nodes come behind all others, and no two nodes
have the same item.
-/

namespace Morphology.Chart

variable {chart later : Chart} {node other : Node} {id n : Nat}

theorem lt_size_of_get? (h : chart.get? id = some node) : id < chart.size :=
  (Array.getElem?_eq_some_iff.mp h).1

theorem mem_nodes_iff : node ∈ chart.nodes ↔ ∃ id, chart.get? id = some node :=
  Array.mem_iff_getElem?

theorem not_mem_nodes_empty (node : Node) : node ∉ (∅ : Chart).nodes := Array.not_mem_empty node

theorem mem_items_of_get? (h : chart.get? id = some node) : node.toItem ∈ chart.items :=
  mem_items.mpr ⟨id, node, h, rfl⟩

/-- The item of a node tells its number. -/
theorem id_unique {j : Nat} (hi : chart.get? id = some node) (hj : chart.get? j = some other)
    (hitem : node.toItem = other.toItem) : id = j := by
  have hsize : id < (chart.nodes.toList.map Node.toItem).length := by
    rw [List.length_map, Array.length_toList]
    exact lt_size_of_get? hi
  refine (List.getElem?_inj hsize chart.distinct).mp ?_
  have hi' : chart.nodes[id]? = some node := hi
  have hj' : chart.nodes[j]? = some other := hj
  simp [hi', hj', hitem]

theorem nodup_items (chart : Chart) : chart.items.Nodup := chart.distinct

theorem reaches_iff {place : Nat} : chart.reaches place ↔ ∃ node ∈ chart.nodes, node.stop = place := by
  unfold reaches
  rw [Array.any_eq_true']
  simp only [beq_iff_eq]

theorem get?_insert : (chart.insert node).2.get? id = some other ↔
    chart.get? id = some other ∨ id = chart.size ∧ other = node ∧ node.toItem ∉ chart.items := by
  by_cases hknown : node.toItem ∈ chart.items
  · rw [insert_of_mem hknown]
    simp [hknown]
  · rw [insert_of_not_mem hknown]
    simp only [get?, push, Array.getElem?_push, size, hknown, not_false_eq_true, and_true]
    by_cases hid : id = chart.nodes.size
    · simp [hid, eq_comm]
    · simp [hid]

theorem pairwise_startingAt (chart : Chart) (place : Nat) :
    (chart.startingAt place).Pairwise (· < ·) := by
  unfold startingAt
  rw [chart.getD_byStart]
  exact List.pairwise_lt_range.filter _

/-- All nodes of a chart are nodes of a later one, under the same numbers. -/
def Extends (later chart : Chart) : Prop :=
  ∀ id node, chart.get? id = some node → later.get? id = some node

namespace Extends

theorem refl (chart : Chart) : chart.Extends chart := fun _ _ h ↦ h

theorem trans {last : Chart} (h : last.Extends later) (h' : later.Extends chart) :
    last.Extends chart := fun id node hnode ↦ h id node (h' id node hnode)

theorem mem_items (h : later.Extends chart) {item : Item} (hitem : item ∈ chart.items) :
    item ∈ later.items := by
  obtain ⟨id, node, hnode, rfl⟩ := Chart.mem_items.mp hitem
  exact mem_items_of_get? (h id node hnode)

theorem size_le (h : later.Extends chart) : chart.size ≤ later.size := by
  apply Nat.le_of_not_lt
  intro hid
  have hnode : chart.get? later.size = some chart.nodes[later.size] := Array.getElem?_eq_getElem hid
  exact absurd (lt_size_of_get? (h _ _ hnode)) (Nat.lt_irrefl _)

end Extends

theorem insertAll_append (chart : Chart) (nodes others : List Node) :
    chart.insertAll (nodes ++ others) =
      ((chart.insertAll nodes).1 + ((chart.insertAll nodes).2.insertAll others).1,
        ((chart.insertAll nodes).2.insertAll others).2) := by
  induction nodes generalizing chart with
  | nil => simp [insertAll]
  | cons node rest ih =>
    simp only [List.cons_append, insertAll, ih]
    exact Prod.ext (Nat.add_right_comm _ _ _) rfl

theorem extends_insertAll (chart : Chart) (nodes : List Node) :
    (chart.insertAll nodes).2.Extends chart := by
  induction nodes generalizing chart with
  | nil => exact .refl chart
  | cons node rest ih =>
    exact (ih _).trans fun id other h ↦ get?_insert.mpr (.inl h)

/-- A node that was added is one of those that were to be added, and its number is new. -/
theorem get?_insertAll {nodes : List Node} (h : (chart.insertAll nodes).2.get? id = some node) :
    chart.get? id = some node ∨ chart.size ≤ id ∧ node ∈ nodes := by
  induction nodes generalizing chart with
  | nil => exact .inl h
  | cons first rest ih =>
    rcases ih h with hearlier | ⟨hsize, hmem⟩
    · rcases get?_insert.mp hearlier with hold | ⟨rfl, rfl, -⟩
      · exact .inl hold
      · exact .inr ⟨Nat.le_refl _, List.mem_cons_self⟩
    · have hgrown : chart.size ≤ (chart.insert first).2.size := by
        rw [size_insert]
        exact Nat.le_add_right ..
      exact .inr ⟨Nat.le_trans hgrown hsize, List.mem_cons_of_mem first hmem⟩

theorem mem_nodes_insertAll {nodes : List Node} (h : node ∈ (chart.insertAll nodes).2.nodes) :
    node ∈ chart.nodes ∨ node ∈ nodes := by
  obtain ⟨id, hid⟩ := mem_nodes_iff.mp h
  exact (get?_insertAll hid).imp (fun hold ↦ mem_nodes_iff.mpr ⟨id, hold⟩) And.right

end Morphology.Chart
