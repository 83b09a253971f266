import Morphology.Search.Inheritance
import Morphology.Search.Saturation
import Morphology.Structure.Material

/-!
# Universe of a search

What productions can make of given items, again and again, stays within bounds: no item leaves the
stretch of text that there is, structures are made of the material that there is, and they are not
deeper than the limit. Only finitely many items are within such bounds.
-/

namespace Morphology

/-! ## Combination -/

/-- The material that an operation brings along. -/
def Operation.material : Operation → Material
  | .fixed features => features.material
  | .collect _ indices => ⟨[], indices.length⟩
  | .child _ => {}
  | .copy _ _ => {}
  | .check _ _ => {}
  | .agree _ _ _ => {}
  | .nest _ _ => {}

/-- The material that a production brings along. -/
def Production.material (rule : Production) : Material :=
  Material.joinAll Operation.material rule.operations

/-- An operation that brings along given material alone makes structures of that material. -/
theorem Operation.fits_material {m : Material} {op : Operation} (hbrought : op.material ≤ m) :
    op.Fits m.trait := by
  cases op with
  | fixed features => exact hbrought
  | collect attr indices => exact ⟨trivial, Material.width_le.mp hbrought⟩
  | child | copy | check | agree | nest => exact trivial

/-- A production makes structures of the material of the children and of its own. -/
theorem Production.material_combine {m : Material} {children : List Structure}
    {rule : Production} (hchildren : ∀ s ∈ children, s.material ≤ m)
    (hbrought : rule.material ≤ m) {result : Structure}
    (h : rule.combine children = .ok (some result)) : result.material ≤ m := by
  have htrait : m.trait.features result :=
    Trait.combine hchildren
      (fun op hop ↦ op.fits_material (Material.joinAll_le.mp hbrought op hop)) h
  exact htrait

/-! ## Items within bounds -/

/-- Bounds for items. -/
structure Scope where
  material : Material
  depth : Nat
  /-- A bound for places in the text. -/
  extent : Nat

/-- An item that is within bounds. -/
structure Item.Within (scope : Scope) (item : Item) : Prop where
  start_le : item.start ≤ scope.extent
  stop_le : item.stop ≤ scope.extent
  material_le : item.features.material ≤ scope.material
  depth_le : item.features.depth ≤ scope.depth
  cuts_le : item.cuts.length ≤ scope.extent ∧ ∀ cut ∈ item.cuts, cut ≤ scope.extent

/-- Only finitely many items are within bounds. -/
theorem Item.listable (scope : Scope) : Listable (Item.Within scope) := by
  have hplaces := Listable.le scope.extent
  refine (((hplaces.prod hplaces).prod Symbol.listable).prod
    ((Structure.listable scope.material scope.depth).prod (hplaces.lists scope.extent))).map
      (fun p ↦ ⟨p.1.1.1, p.1.1.2, p.1.2, p.2.1, p.2.2⟩) fun item hwithin ↦ ?_
  exact ⟨(((item.start, item.stop), item.tag), item.features, item.cuts),
    ⟨⟨⟨hwithin.start_le, hwithin.stop_le⟩, trivial⟩, ⟨hwithin.material_le, hwithin.depth_le⟩,
      hwithin.cuts_le⟩, rfl⟩

/-- The bounds of a list of items and of productions that are applied to them. -/
def Scope.of (items : List Item) (rules : List Production) : Scope where
  material := (Material.joinAll (·.features.material) items).join
    (Material.joinAll Production.material rules)
  depth := (items.map (·.features.depth)).foldr max depthLimit
  extent := (items.flatMap fun item ↦
    item.start :: item.stop :: item.cuts.length :: item.cuts).foldr max 0

theorem le_foldr_max {n least : Nat} {l : List Nat} (h : n = least ∨ n ∈ l) :
    n ≤ l.foldr max least := by
  induction l with
  | nil => simpa using h.elim Nat.le_of_eq (by simp)
  | cons m rest ih =>
    rw [List.foldr_cons]
    rcases h with rfl | h
    · exact Nat.le_trans (ih (.inl rfl)) (Nat.le_max_right ..)
    · rcases List.mem_cons.mp h with rfl | h
      · exact Nat.le_max_left ..
      · exact Nat.le_trans (ih (.inr h)) (Nat.le_max_right ..)

namespace Scope

theorem within_of {items : List Item} {rules : List Production} {item : Item}
    (h : item ∈ items) : item.Within (of items rules) := by
  have hextent : ∀ n ∈ item.start :: item.stop :: item.cuts.length :: item.cuts,
      n ≤ (of items rules).extent := fun n hn ↦
    le_foldr_max (.inr (List.mem_flatMap.mpr ⟨item, h, hn⟩))
  constructor
  · exact hextent _ (by simp)
  · exact hextent _ (by simp)
  · exact Material.joinAll_le (f := fun item : Item ↦ item.features.material).mp
      (Material.left_le_join _ _) item h
  · exact le_foldr_max (.inr (List.mem_map.mpr ⟨item, h, rfl⟩))
  · exact ⟨hextent _ (by simp), fun cut hcut ↦ hextent cut (by simp [hcut])⟩

/-- Bounds that productions cannot leave. -/
structure Closed (scope : Scope) (rules : List Production) : Prop where
  material_le : ∀ rule ∈ rules, rule.material ≤ scope.material
  depthLimit_le : depthLimit ≤ scope.depth

theorem closed_of (items : List Item) (rules : List Production) :
    (of items rules).Closed rules where
  material_le := Material.joinAll_le.mp (Material.right_le_join _ _)
  depthLimit_le := le_foldr_max (.inl rfl)

/-- What a production makes of nodes within bounds is within bounds. -/
theorem Closed.within_makeNode {scope : Scope} {rules : List Production}
    (hclosed : scope.Closed rules) {rule : Production} (hrule : rule ∈ rules) {route : Route}
    {children : List Node} (hchildren : ∀ child ∈ children, child.toItem.Within scope) {node : Node}
    (hmade : Saturation.makeNode rule route children = .ok (some node)) :
    node.toItem.Within scope := by
  obtain ⟨first, last, features, hfirst, hlast, hcombine, hshallow, rfl⟩ :=
    Saturation.exists_of_makeNode hmade
  have hstop : last.stop ≤ scope.extent := (hchildren last (List.mem_of_getLast? hlast)).stop_le
  have hfeatures : ∀ s ∈ children.map (·.features), s.material ≤ scope.material :=
    List.forall_mem_map.mpr fun child hchild ↦ (hchildren child hchild).material_le
  have hinner : ∀ cut ∈ Saturation.innerCuts first.start last.stop children, cut < last.stop :=
    fun cut hcut ↦ (Saturation.mem_innerCuts.mp hcut).2.1
  have hcuts : (Saturation.innerCuts first.start last.stop children).length ≤ last.stop :=
    length_le_of_increasing (pairwise_insertAllIncreasing .nil) hinner
  exact
    { start_le := (hchildren first (List.mem_of_mem_head? hfirst)).start_le
      stop_le := hstop
      material_le := Production.material_combine hfeatures (hclosed.material_le rule hrule) hcombine
      depth_le := Nat.le_trans hshallow hclosed.depthLimit_le
      cuts_le := ⟨Nat.le_trans hcuts hstop, fun cut hcut ↦
        Nat.le_trans (Nat.le_of_lt (hinner cut hcut)) hstop⟩ }

end Scope

end Morphology
