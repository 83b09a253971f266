import Morphology.Proofs.Analysis.Trees

/-!
# Boundaries of morphs

Strictly inside of a derivation, its morphs end at certain places. These are the cuts of its node:
the cuts are put together from those of the children, and the derivation tells the morphs; neither
is looked up in the other.
-/

namespace Morphology

namespace Derivation

/-- The places strictly inside of a derivation where one of its morphs ends. -/
def boundaries (d : Derivation) : List Nat :=
  insertAllIncreasing
    ((d.leaves.map (·.stop)).filter fun place ↦ d.start < place && place < d.stop) []

theorem mem_boundaries {d : Derivation} {place : Nat} : place ∈ d.boundaries ↔
    d.start < place ∧ place < d.stop ∧ place ∈ d.leaves.map (·.stop) := by
  unfold boundaries
  rw [mem_insertAllIncreasing, List.mem_filter, Bool.and_eq_true, decide_eq_true_eq,
    decide_eq_true_eq, or_iff_left List.not_mem_nil, and_comm, and_assoc]

theorem boundaries_increasing (d : Derivation) : d.boundaries.Pairwise (· < ·) :=
  pairwise_insertAllIncreasing .nil

theorem leavesOfAll_eq (ds : List Derivation) : leavesOfAll ds = ds.flatMap leaves := by
  induction ds with
  | nil => rfl
  | cons d rest ih => rw [leavesOfAll, ih, List.flatMap_cons]

theorem leaves_of_nil {d : Derivation} (h : d.children = []) : d.leaves = [d] := by
  obtain ⟨node, start, stop, tag, features, rule, surface, children⟩ := d
  obtain rfl : children = [] := h
  rfl

theorem leaves_of_ne_nil {d : Derivation} (h : d.children ≠ []) :
    d.leaves = d.children.flatMap leaves := by
  obtain ⟨node, start, stop, tag, features, rule, surface, children⟩ := d
  cases children with
  | nil => exact absurd rfl h
  | cons child rest => rw [leaves, leavesOfAll_eq, List.flatMap_cons]

end Derivation

/-- Some places, among them the end of an item, lie in its stretch; those strictly inside are its
cuts. -/
structure Item.Marks (item : Item) (places : List Nat) : Prop where
  start_le : item.start ≤ item.stop
  stop_mem : item.stop ∈ places
  within : ∀ place ∈ places, item.start ≤ place ∧ place ≤ item.stop
  mem_cuts : ∀ place, place ∈ item.cuts ↔
    item.start < place ∧ place < item.stop ∧ place ∈ places

theorem Item.Marks.mem {item : Item} {places : List Nat} (h : item.Marks places) {place : Nat}
    (hplace : place ∈ item.cuts ∨ place = item.stop) : place ∈ places := by
  rcases hplace with hcut | rfl
  · exact ((h.mem_cuts place).mp hcut).2.2
  · exact h.stop_mem

theorem Item.Marks.mem_flatten {items : List Item} {placess : List (List Nat)}
    (h : List.Forall₂ Item.Marks items placess) {item : Item} (hitem : item ∈ items) {place : Nat}
    (hplace : place ∈ item.cuts ∨ place = item.stop) : place ∈ placess.flatten := by
  induction h with
  | nil => exact absurd hitem List.not_mem_nil
  | cons hmarks _ ih =>
    rw [List.flatten_cons, List.mem_append]
    rcases List.mem_cons.mp hitem with rfl | hrest
    · exact .inl (hmarks.mem hplace)
    · exact .inr (ih hrest)

/-- Adjacent items from a place on mark places up to the end of the last one. Behind the first
place, each of these is a cut or the end of one of the items. -/
theorem Adjacent.marks {items : List Item} {placess : List (List Nat)} {start stop : Nat}
    (h : Adjacent start (items.map Item.span) stop)
    (hmarks : List.Forall₂ Item.Marks items placess) :
    start ≤ stop ∧ (∀ place ∈ placess.flatten, start ≤ place ∧ place ≤ stop) ∧
      ∀ place ∈ placess.flatten, start < place →
        ∃ item ∈ items, place ∈ item.cuts ∨ place = item.stop := by
  induction hmarks generalizing start with
  | nil =>
    refine ⟨Nat.le_of_eq h, ?_, ?_⟩
    · exact fun place hplace ↦ absurd hplace List.not_mem_nil
    · exact fun place hplace ↦ absurd hplace List.not_mem_nil
  | @cons item places rest others hitem _ ih =>
    obtain ⟨hle, hwithin, hmem⟩ := ih h.2
    have hstart : item.start = start := h.1
    have hstop : item.start ≤ item.stop := hitem.start_le
    simp only [List.flatten_cons, List.mem_append, List.exists_mem_cons_iff]
    refine ⟨by omega, fun place hplace ↦ ?_, fun place hplace hbehind ↦ ?_⟩
    · rcases hplace with hfirst | hlater
      · have hbounds := hitem.within place hfirst
        omega
      · have hbounds := hwithin place hlater
        omega
    · by_cases hend : place = item.stop
      · exact .inl (.inr hend)
      · rcases hplace with hfirst | hlater
        · have hbounds := hitem.within place hfirst
          exact .inl (.inl ((hitem.mem_cuts place).mpr ⟨by omega, by omega, hfirst⟩))
        · have hbounds := hwithin place hlater
          exact .inr (hmem place hlater (by omega))

/-- What a production makes has its cuts where the items it is made of have marks. -/
theorem Production.Makes.marks {rule : Production} {items : List Item} {item : Item}
    {placess : List (List Nat)} (h : rule.Makes items item) (hitems : items ≠ [])
    (hmarks : List.Forall₂ Item.Marks items placess) : item.Marks placess.flatten := by
  obtain ⟨hle, hwithin, hmem⟩ := h.adjacent.marks hmarks
  refine ⟨hle, ?_, hwithin, fun place ↦ ?_⟩
  · have hlast := List.getLast?_eq_some_getLast hitems
    have hspan : (items.map Item.span).getLast? = some (items.getLast hitems).span := by
      rw [List.getLast?_map, hlast, Option.map_some]
    have hstop : (items.getLast hitems).stop = item.stop := h.adjacent.getLast_eq hspan
    exact Item.Marks.mem_flatten hmarks (List.getLast_mem hitems) (.inr hstop.symm)
  · rw [h.mem_cuts]
    constructor
    · intro ⟨hstart, hlt, child, hchild, hplace⟩
      exact ⟨hstart, hlt, Item.Marks.mem_flatten hmarks hchild hplace⟩
    · intro ⟨hstart, hlt, hplace⟩
      exact ⟨hstart, hlt, hmem place hplace hstart⟩

namespace Chart

variable {grammar : Grammar} {text : List Char} {chart : Chart}

/-- The places where the morphs of the derivation of a node end. -/
def ends (grammar : Grammar) (text : List Char) (chart : Chart) (id : Nat) (node : Node) :
    List Nat :=
  (derivation grammar.rules text (chart.derivations grammar.rules text) id node).leaves.map (·.stop)

theorem ends_of_leaf (id : Nat) {node : Node} (hnode : node.children = []) :
    ends grammar text chart id node = [node.stop] := by
  unfold ends
  rw [Derivation.leaves_of_nil (by rw [derivation, hnode, List.filterMap_nil]), List.map_singleton]
  rfl

theorem forall₂_marks (h : chart.Justified grammar text) {ids : List Nat} {nodes : List Node}
    (hlists : chart.Lists ids nodes)
    (hmarks : ∀ id ∈ ids, ∀ node, chart.get? id = some node →
      node.toItem.Marks (ends grammar text chart id node)) :
    List.Forall₂ Item.Marks (nodes.map Node.toItem)
      ((ids.filterMap fun id ↦ (chart.derivations grammar.rules text)[id]?).map
        fun d ↦ d.leaves.map (·.stop)) := by
  induction hlists with
  | nil => exact .nil
  | @cons id node ids nodes hnode _ ih =>
    obtain ⟨hfirst, hrest⟩ := List.forall_mem_cons.mp hmarks
    rw [List.filterMap_cons_some (getElem?_derivations h hnode), List.map_cons, List.map_cons]
    exact .cons (hfirst node hnode) (ih hrest)

/-- The morphs of a derivation are those of its children. -/
theorem exists_ends_of_children (h : chart.Justified grammar text) (id : Nat) {node : Node}
    {nodes : List Node} (hlists : chart.Lists node.children nodes) (hnodes : nodes ≠ [])
    (hmarks : ∀ child ∈ node.children, ∀ other, chart.get? child = some other →
      other.toItem.Marks (ends grammar text chart child other)) :
    ∃ placess, List.Forall₂ Item.Marks (nodes.map Node.toItem) placess ∧
      ends grammar text chart id node = placess.flatten := by
  have hchildren := forall₂_marks h hlists hmarks
  have hne : (derivation grammar.rules text (chart.derivations grammar.rules text) id
      node).children ≠ [] := by
    intro hnil
    unfold derivation at hnil
    simp only at hnil
    rw [hnil, List.map_nil] at hchildren
    exact hnodes (List.map_eq_nil_iff.mp (List.forall₂_nil_right_iff.mp hchildren))
  refine ⟨_, hchildren, ?_⟩
  unfold ends
  rw [Derivation.leaves_of_ne_nil hne, List.map_flatMap, List.flatMap_def]
  rfl

/-- The morphs of a derivation end at the end of its node and at the cuts of its node, and nowhere
else behind its start. -/
theorem marks_ends (h : chart.Justified grammar text) (id : Nat) {node : Node}
    (hnode : chart.get? id = some node) : node.toItem.Marks (ends grammar text chart id node) := by
  -- Children have smaller numbers than their parents.
  induction id using Nat.strong_induction_on generalizing node with
  | _ id ih =>
    have hjustified := h id node hnode
    cases hjustified with
    | morph number origin_eq found start_le cuts_eq =>
      have hchildren : node.children = [] := by rw [Node.children, origin_eq]
      rw [ends_of_leaf id hchildren]
      obtain ⟨hle, -⟩ := found.placed start_le
      refine ⟨hle, List.mem_singleton.mpr rfl, fun place hplace ↦ ?_, fun place ↦ ?_⟩
      · rw [List.mem_singleton.mp hplace]
        exact ⟨hle, Nat.le_refl _⟩
      · rw [cuts_eq, List.mem_singleton]
        constructor
        · exact fun hcut ↦ absurd hcut List.not_mem_nil
        · omega
    | production route rule nodes admits earlier made =>
      obtain ⟨makes, -, origin_eq⟩ := Grammar.makes_of_admits admits made
      have hchildren : node.children = route.nodes := by rw [Node.children, origin_eq]
      have hnodes : nodes ≠ [] := by
        intro hnil
        rw [hnil] at admits
        exact Saturation.nodes_ne_nil_of_admits (fun rule ↦ grammar.validate_production) admits
          (List.forall₂_nil_right_iff.mp admits.lists)
      obtain ⟨placess, hmarks, hends⟩ := exists_ends_of_children h id (hchildren ▸ admits.lists)
        hnodes fun child hchild other ↦ ih child (earlier child (hchildren ▸ hchild))
      rw [hends]
      exact makes.marks (by simpa using hnodes) hmarks

theorem cuts_increasing (h : chart.Justified grammar text) {id : Nat} {node : Node}
    (hnode : chart.get? id = some node) : node.cuts.Pairwise (· < ·) := by
  cases h id node hnode with
  | morph number origin_eq found start_le cuts_eq =>
    rw [cuts_eq]
    exact .nil
  | production route rule nodes admits earlier made =>
    exact (Grammar.makes_of_admits admits made).1.cuts_increasing

/-- The boundaries of the morphs of a derivation are the cuts of its node. -/
theorem boundaries_derivation (h : chart.Justified grammar text) {id : Nat} {node : Node}
    (hnode : chart.get? id = some node) :
    (derivation grammar.rules text (chart.derivations grammar.rules text) id node).boundaries =
      node.cuts := by
  apply List.Pairwise.eq_of_mem_iff (Derivation.boundaries_increasing _) (cuts_increasing h hnode)
  intro place
  rw [(marks_ends h id hnode).mem_cuts, Derivation.mem_boundaries]
  rfl

end Chart

end Morphology
