import Mathlib.Data.List.Sort
import Morphology.Proofs.Grammar.Validity
import Morphology.Proofs.Search.Route
import Morphology.Search.Saturation

/-!
# Combination along a route

A production is only applied to as many children as its pattern has elements, and a valid one
refers to no others. What it makes of them can then be said without the order of computation: the
operations yield a structure, the stretches are joined, and the places where they meet are cuts.
-/

namespace Morphology

/-! ## Operations -/

section

variable {children : List Structure}

theorem childFeatures_total {index : Nat} (h : index < children.length) :
    ∃ s, childFeatures children index = .ok s := by
  unfold childFeatures
  rw [List.getElem?_eq_getElem h]
  exact ⟨_, rfl⟩

theorem mapM_childFeatures_total {indices : List Nat}
    (h : ∀ index ∈ indices, index < children.length) :
    ∃ all, indices.mapM (childFeatures children) = .ok all := by
  induction indices with
  | nil => exact ⟨[], rfl⟩
  | cons index rest ih =>
    obtain ⟨hindex, hrest⟩ := List.forall_mem_cons.mp h
    obtain ⟨s, hs⟩ := childFeatures_total hindex
    obtain ⟨all, hall⟩ := ih hrest
    refine ⟨s :: all, ?_⟩
    rw [List.mapM_cons, hs, hall]
    rfl

/-- An operation has an outcome when the children are there that it refers to. -/
theorem Operation.apply_total {op : Operation} (built : Structure)
    (h : ∀ index, .child index ∈ op.references → index < children.length) :
    ∃ outcome, op.apply children built = .ok outcome := by
  have hthere {index : Nat} (hindex : .child index ∈ op.references) :
      ∃ s, children[index]? = some s := ⟨_, List.getElem?_eq_getElem (h index hindex)⟩
  cases op with
  | child index =>
    obtain ⟨s, hs⟩ := hthere List.mem_cons_self
    exact ⟨_, apply_child built hs⟩
  | fixed features => exact ⟨_, rfl⟩
  | copy index attr =>
    obtain ⟨s, hs⟩ := hthere List.mem_cons_self
    exact ⟨_, apply_copy built attr hs⟩
  | check index features =>
    obtain ⟨s, hs⟩ := hthere List.mem_cons_self
    exact ⟨_, apply_check built features hs⟩
  | agree attr left right =>
    obtain ⟨s, hs⟩ := hthere List.mem_cons_self
    obtain ⟨t, ht⟩ := hthere (List.mem_cons_of_mem _ List.mem_cons_self)
    exact ⟨_, apply_agree built attr hs ht⟩
  | nest attr index =>
    obtain ⟨s, hs⟩ := hthere List.mem_cons_self
    exact ⟨_, apply_nest built attr hs⟩
  | collect attr indices =>
    have hindices : ∀ index ∈ indices, index < children.length := fun index hindex ↦
      h index (List.mem_cons_of_mem _ (List.mem_map.mpr ⟨index, hindex, rfl⟩))
    obtain ⟨all, hall⟩ := mapM_childFeatures_total hindices
    exact ⟨_, apply_collect built attr hall⟩

theorem Operation.applyAll_total {ops : List Operation} {built : Structure}
    (h : ∀ op ∈ ops, ∀ index, .child index ∈ op.references → index < children.length) :
    ∃ outcome, applyAll children built ops = .ok outcome := by
  induction ops generalizing built with
  | nil => exact ⟨_, rfl⟩
  | cons op rest ih =>
    obtain ⟨hop, hrest⟩ := List.forall_mem_cons.mp h
    obtain ⟨outcome, houtcome⟩ := apply_total built hop
    rw [applyAll, houtcome]
    cases outcome with
    | none => exact ⟨none, rfl⟩
    | some next => exact ih hrest

/-- A valid production refers to none but as many children as it has patterns. -/
theorem Production.lt_of_reference {table : SymbolTable} {rule : Production}
    (hvalid : rule.validate table = .ok ()) (hlength : rule.pattern.length = children.length) :
    ∀ op ∈ rule.operations, ∀ index, .child index ∈ op.references → index < children.length :=
  fun _ hop _ href ↦ hlength ▸ child_lt_length hvalid hop href

/-- A production comes to a conclusion about the children that it refers to. -/
theorem Production.combine_total {rule : Production}
    (href : ∀ op ∈ rule.operations, ∀ index, .child index ∈ op.references →
      index < children.length) : ∃ outcome, rule.combine children = .ok outcome := by
  unfold combine
  split
  · exact ⟨_, rfl⟩
  · exact Operation.applyAll_total href

end

/-! ## Items -/

/-- An item is what a production makes of other items. -/
structure Production.Makes (rule : Production) (children : List Item) (item : Item) : Prop where
  acceptEach : TagPattern.AcceptEach rule.pattern children
  adjacent : Adjacent item.start (children.map Item.span) item.stop
  tag_eq : item.tag = rule.result
  combine_eq : rule.combine (children.map (·.features)) = .ok (some item.features)
  cuts_increasing : item.cuts.Pairwise (· < ·)
  mem_cuts : ∀ cut, cut ∈ item.cuts ↔ item.start < cut ∧ cut < item.stop ∧
    ∃ child ∈ children, cut ∈ child.cuts ∨ cut = child.stop

/-- What a valid production makes starts where its first child does. -/
theorem Production.Makes.exists_start {table : SymbolTable} {rule : Production}
    {children : List Item} {item : Item} (h : rule.Makes children item)
    (hvalid : rule.validate table = .ok ()) : ∃ first ∈ children, first.start = item.start := by
  cases children with
  | nil => exact absurd (List.forall₂_nil_right_iff.mp h.acceptEach) (pattern_ne_nil hvalid)
  | cons first rest => exact ⟨first, List.mem_cons_self, h.adjacent.1⟩

namespace Saturation

variable {table : SymbolTable} {chart : Chart} {rules : List Production} {rule : Production}
  {route : Route} {nodes : List Node}

/-- The structures of the children of a route, seen as items. -/
theorem map_features (nodes : List Node) :
    nodes.map (·.features) = (nodes.map Node.toItem).map (·.features) := by
  rw [List.map_map]
  rfl

/-- Along a route, a node is made unless the structures contradict each other or the structure of
the node would be too deep. -/
theorem makeNode_of_admits (hvalid : rule.validate table = .ok ())
    (h : chart.Admits rules route rule nodes) :
    ∃ first last, Adjacent first (nodes.map (·.span)) last ∧
      ∃ outcome, rule.combine (nodes.map (·.features)) = .ok outcome ∧
        makeNode rule route nodes = match outcome with
          | none => .ok none
          | some features =>
            if depthLimit < features.depth then .error (.tooDeep depthLimit)
            else .ok (some
              { start := first
                stop := last
                tag := rule.result
                features
                cuts := innerCuts first last nodes
                origin := .production route.rule route.nodes }) := by
  obtain ⟨start, stop, hadjacent⟩ := h.adjacent
  have hlength : rule.pattern.length = nodes.length := by
    rw [h.acceptEach.length_eq, List.length_map]
  have hne : nodes ≠ [] := by
    rintro rfl
    exact Production.pattern_ne_nil hvalid (List.length_eq_zero_iff.mp hlength)
  have hfirst := List.head?_eq_some_head hne
  have hlast := List.getLast?_eq_some_getLast hne
  obtain ⟨hstart, hstop⟩ := hadjacent.ends_of_nodes hne
  have hfeatures : rule.pattern.length = (nodes.map (·.features)).length := by
    rw [hlength, List.length_map]
  obtain ⟨outcome, houtcome⟩ := Production.combine_total (Production.lt_of_reference hvalid hfeatures)
  refine ⟨start, stop, hadjacent, outcome, houtcome, ?_⟩
  unfold makeNode
  simp only [hfirst, hlast, houtcome, hstart, hstop]
  cases outcome <;> rfl

/-- A node that was made has the item that the production makes, and it is not too deep. -/
theorem makes_of_makeNode (hvalid : rule.validate table = .ok ())
    (h : chart.Admits rules route rule nodes) {node : Node}
    (hmade : makeNode rule route nodes = .ok (some node)) :
    rule.Makes (nodes.map Node.toItem) node.toItem ∧ node.features.depth ≤ depthLimit ∧
      node.origin = .production route.rule route.nodes := by
  obtain ⟨first, last, hadjacent, outcome, hcombine, heq⟩ := makeNode_of_admits hvalid h
  rw [hmade] at heq
  cases outcome with
  | none => exact absurd heq nofun
  | some features =>
    simp only at heq
    split at heq
    next => exact absurd heq nofun
    next hshallow =>
      obtain rfl := Option.some.inj (Except.ok.inj heq)
      refine ⟨⟨h.acceptEach, ?_, rfl, ?_, ?_, fun cut ↦ mem_innerCuts⟩, Nat.le_of_not_lt hshallow, rfl⟩
      · rw [List.map_map]
        exact hadjacent
      · rw [← map_features]
        exact hcombine
      · exact pairwise_insertAllIncreasing .nil

/-- Nothing else is made of the children of a route than the item that the production makes. -/
theorem makeNode_of_makes (hvalid : rule.validate table = .ok ())
    (h : chart.Admits rules route rule nodes) {item : Item}
    (hmakes : rule.Makes (nodes.map Node.toItem) item) {made : Option Node}
    (hmade : makeNode rule route nodes = .ok made) :
    ∃ node, made = some node ∧ node.toItem = item := by
  obtain ⟨first, last, hadjacent, outcome, hcombine, heq⟩ := makeNode_of_admits hvalid h
  have hfeatures := hmakes.combine_eq
  rw [← map_features, hcombine] at hfeatures
  obtain rfl := Except.ok.inj hfeatures
  have hspans := hmakes.adjacent
  rw [List.map_map] at hspans
  have hne : nodes ≠ [] := by
    rintro rfl
    exact Production.pattern_ne_nil hvalid (List.forall₂_nil_right_iff.mp h.acceptEach)
  have hplaces : item.start = first ∧ item.stop = last :=
    hspans.ends_eq hadjacent (by simpa using hne)
  rw [hmade] at heq
  simp only at heq
  split at heq
  next => exact absurd heq nofun
  next =>
    refine ⟨_, Except.ok.inj heq, ?_⟩
    have hcuts : innerCuts first last nodes = item.cuts := by
      refine List.Pairwise.eq_of_mem_iff (r := (· < ·)) (pairwise_insertAllIncreasing .nil)
        hmakes.cuts_increasing fun cut ↦ ?_
      rw [mem_innerCuts, hmakes.mem_cuts, hplaces.1, hplaces.2]
    rw [hcuts, ← hplaces.1, ← hplaces.2, ← hmakes.tag_eq]

theorem error_of_makeNode (hvalid : rule.validate table = .ok ())
    (h : chart.Admits rules route rule nodes) {defect : Defect}
    (herror : makeNode rule route nodes = .error defect) : defect = .tooDeep depthLimit := by
  obtain ⟨first, last, -, outcome, -, heq⟩ := makeNode_of_admits hvalid h
  rw [herror] at heq
  cases outcome with
  | none => exact absurd heq nofun
  | some features =>
    simp only at heq
    split at heq
    next => exact Except.error.inj heq
    next => exact absurd heq nofun

end Saturation

end Morphology
