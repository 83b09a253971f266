import Mathlib.Data.List.Forall2
import Morphology.Proofs.Search.Chart
import Morphology.Proofs.Search.Index
import Morphology.Search.Route

/-!
# Routes of a chart

The routes that are listed for a chart are, without regard to their order, all ways to apply a
production to adjacent nodes of which at least one is new. Filing the productions under the tags
of their first child loses none of them.
-/

namespace Morphology

/-- Stretches that follow one another from one place to another. -/
def Adjacent : Nat → List (Nat × Nat) → Nat → Prop
  | place, [], last => place = last
  | place, (start, stop) :: rest, last => start = place ∧ Adjacent stop rest last

namespace Adjacent

variable {place last : Nat} {stretches : List (Nat × Nat)}

theorem head_eq {first : Nat × Nat} (h : Adjacent place stretches last)
    (hfirst : stretches.head? = some first) : first.1 = place := by
  cases stretches with
  | nil => exact absurd hfirst nofun
  | cons stretch rest => exact Option.some.inj hfirst ▸ h.1

theorem getLast_eq {final : Nat × Nat} (h : Adjacent place stretches last)
    (hfinal : stretches.getLast? = some final) : final.2 = last := by
  induction stretches generalizing place with
  | nil => exact absurd hfinal nofun
  | cons stretch rest ih =>
    cases rest with
    | nil => exact Option.some.inj hfinal ▸ h.2
    | cons second later =>
      rw [List.getLast?_cons_cons] at hfinal
      exact ih h.2 hfinal

/-- Stretches tell where they start and where they stop, if there are any. -/
theorem ends_eq {place' last' : Nat} (h : Adjacent place stretches last)
    (h' : Adjacent place' stretches last') (hne : stretches ≠ []) : place = place' ∧ last = last' := by
  have hfirst := List.head?_eq_some_head hne
  have hfinal := List.getLast?_eq_some_getLast hne
  exact ⟨(h.head_eq hfirst).symm.trans (h'.head_eq hfirst),
    (h.getLast_eq hfinal).symm.trans (h'.getLast_eq hfinal)⟩

theorem append {middle : Nat} {others : List (Nat × Nat)} (h : Adjacent place stretches middle)
    (h' : Adjacent middle others last) : Adjacent place (stretches ++ others) last := by
  induction stretches generalizing place with
  | nil =>
    obtain rfl : place = middle := h
    exact h'
  | cons stretch rest ih => exact ⟨h.1, ih h.2⟩

/-- Each stretch starts where the one before it stops. -/
theorem starts_append (h : Adjacent place stretches last) :
    stretches.map Prod.fst ++ [last] = place :: stretches.map Prod.snd := by
  induction stretches generalizing place with
  | nil =>
    obtain rfl : place = last := h
    rfl
  | cons stretch rest ih =>
    obtain ⟨rfl, hrest⟩ := h
    rw [List.map_cons, List.map_cons, List.cons_append, ih hrest]

end Adjacent

/-- The stretch of text that an item covers. -/
def Item.span (item : Item) : Nat × Nat := (item.start, item.stop)

namespace Adjacent

variable {place last : Nat} {items : List Item}

/-- What every item hands on from its start to its stop is handed on along adjacent items. -/
theorem chain {P : Nat → Prop} (h : Adjacent place (items.map Item.span) last) (hplace : P place)
    (hitems : ∀ item ∈ items, P item.start → P item.stop) :
    (∀ item ∈ items, P item.start) ∧ P last := by
  induction items generalizing place with
  | nil => exact ⟨fun item hitem ↦ absurd hitem List.not_mem_nil, h ▸ hplace⟩
  | cons item rest ih =>
    obtain ⟨hitem, hrest⟩ := List.forall_mem_cons.mp hitems
    obtain ⟨hstart, hlater⟩ := h
    have hfirst : P item.start := hstart.symm ▸ hplace
    obtain ⟨hall, hlast⟩ := ih hlater (hitem hfirst) hrest
    exact ⟨List.forall_mem_cons.mpr ⟨hfirst, hall⟩, hlast⟩

/-- Adjacent items lie between the places from where and to where they lead. -/
theorem stop_le (h : Adjacent place (items.map Item.span) last)
    (hitems : ∀ item ∈ items, item.start ≤ item.stop) :
    place ≤ last ∧ ∀ item ∈ items, item.stop ≤ last := by
  induction items generalizing place with
  | nil => exact ⟨Nat.le_of_eq h, fun item hitem ↦ absurd hitem List.not_mem_nil⟩
  | cons item rest ih =>
    obtain ⟨hitem, hrest⟩ := List.forall_mem_cons.mp hitems
    obtain ⟨hstart, hlater⟩ := h
    obtain ⟨hlast, hall⟩ := ih hlater hrest
    refine ⟨?_, List.forall_mem_cons.mpr ⟨hlast, hall⟩⟩
    calc
      place = item.start := hstart.symm
      _ ≤ item.stop := hitem
      _ ≤ last := hlast

/-- Adjacent nodes lead from the start of the first to the stop of the last. -/
theorem ends_of_nodes {nodes : List Node} (h : Adjacent place (nodes.map (·.span)) last)
    (hne : nodes ≠ []) : (nodes.head hne).start = place ∧ (nodes.getLast hne).stop = last := by
  have hhead : (nodes.map (·.span)).head? = some (nodes.head hne).span := by
    rw [List.head?_map, List.head?_eq_some_head hne, Option.map_some]
  have hfinal : (nodes.map (·.span)).getLast? = some (nodes.getLast hne).span := by
    rw [List.getLast?_map, List.getLast?_eq_some_getLast hne, Option.map_some]
  exact ⟨h.head_eq hhead, h.getLast_eq hfinal⟩

end Adjacent

/-- The tags of items match patterns one by one. -/
def TagPattern.AcceptEach (patterns : List TagPattern) (items : List Item) : Prop :=
  List.Forall₂ (fun pattern item ↦ pattern.accepts item.tag) patterns items

namespace Chart

variable {chart later : Chart} {rules : List Production} {frontier : Nat}

/-- The nodes with given numbers, in their order. -/
def Lists (chart : Chart) (ids : List Nat) (nodes : List Node) : Prop :=
  List.Forall₂ (fun id node ↦ chart.get? id = some node) ids nodes

namespace Lists

variable {ids : List Nat} {nodes : List Node}

theorem filterMap_eq (h : chart.Lists ids nodes) : ids.filterMap chart.get? = nodes := by
  induction h with
  | nil => rfl
  | cons hnode _ ih => rw [List.filterMap_cons_some hnode, ih]

theorem mono (h : chart.Lists ids nodes) (hlater : later.Extends chart) :
    later.Lists ids nodes :=
  h.imp fun _ _ hnode ↦ hlater _ _ hnode

theorem mem_items (h : chart.Lists ids nodes) : ∀ node ∈ nodes, node.toItem ∈ chart.items := by
  induction h with
  | nil => exact fun node hnode ↦ absurd hnode List.not_mem_nil
  | cons hnode _ ih => exact List.forall_mem_cons.mpr ⟨mem_items_of_get? hnode, ih⟩

theorem mem_nodes (h : chart.Lists ids nodes) : ∀ node ∈ nodes, node ∈ chart.nodes := by
  induction h with
  | nil => exact fun node hnode ↦ absurd hnode List.not_mem_nil
  | cons hnode _ ih => exact List.forall_mem_cons.mpr ⟨mem_nodes_iff.mpr ⟨_, hnode⟩, ih⟩

theorem lt_size (h : chart.Lists ids nodes) : ∀ id ∈ ids, id < chart.size := by
  induction h with
  | nil => exact fun id hid ↦ absurd hid List.not_mem_nil
  | cons hnode _ ih => exact List.forall_mem_cons.mpr ⟨lt_size_of_get? hnode, ih⟩

/-- The nodes under the numbers of an earlier chart are its nodes. -/
theorem restrict (h : later.Lists ids nodes) (hlater : later.Extends chart)
    (hids : ∀ id ∈ ids, id < chart.size) : chart.Lists ids nodes := by
  induction h with
  | nil => exact .nil
  | @cons id node ids nodes hnode _ ih =>
    obtain ⟨hid, hids⟩ := List.forall_mem_cons.mp hids
    have hold : chart.get? id = some chart.nodes[id] := Array.getElem?_eq_getElem hid
    refine .cons ?_ (ih hids)
    rw [hold, ← hnode]
    exact (hlater id _ hold).symm

/-- Nodes with different numbers have different items. -/
theorem nodup_items (h : chart.Lists ids nodes) (hids : ids.Nodup) :
    (nodes.map Node.toItem).Nodup := by
  induction h with
  | nil => exact .nil
  | @cons id node ids nodes hnode hrest ih =>
    obtain ⟨hid, hids⟩ := List.nodup_cons.mp hids
    refine List.nodup_cons.mpr ⟨fun hmem ↦ hid ?_, ih hids⟩
    obtain ⟨other, hother, hitem⟩ := List.mem_map.mp hmem
    rw [← filterMap_eq hrest] at hother
    obtain ⟨number, hnumber, hget⟩ := List.mem_filterMap.mp hother
    exact id_unique hnode hget hitem.symm ▸ hnumber

theorem exists_of_ids (h : ∀ id ∈ ids, ∃ node, chart.get? id = some node) :
    ∃ nodes, chart.Lists ids nodes := by
  induction ids with
  | nil => exact ⟨[], .nil⟩
  | cons id rest ih =>
    obtain ⟨⟨node, hnode⟩, hrest⟩ := List.forall_mem_cons.mp h
    obtain ⟨nodes, hlists⟩ := ih hrest
    exact ⟨node :: nodes, .cons hnode hlists⟩

/-- Nodes are there under numbers of their own whenever their items are in the chart. -/
theorem exists_of_items {items : List Item} (h : ∀ item ∈ items, item ∈ chart.items) :
    ∃ ids nodes, chart.Lists ids nodes ∧ nodes.map Node.toItem = items := by
  induction items with
  | nil => exact ⟨[], [], .nil, rfl⟩
  | cons item rest ih =>
    obtain ⟨hitem, hrest⟩ := List.forall_mem_cons.mp h
    obtain ⟨id, node, hnode, rfl⟩ := Chart.mem_items.mp hitem
    obtain ⟨ids, nodes, hlists, rfl⟩ := ih hrest
    exact ⟨id :: ids, node :: nodes, .cons hnode hlists, rfl⟩

end Lists

/-- A route applies a production to adjacent nodes of a chart. -/
structure Admits (chart : Chart) (rules : List Production) (route : Route) (rule : Production)
    (nodes : List Node) : Prop where
  rule_eq : rules[route.rule]? = some rule
  lists : chart.Lists route.nodes nodes
  acceptEach : TagPattern.AcceptEach rule.pattern (nodes.map Node.toItem)
  adjacent : ∃ start stop, Adjacent start (nodes.map (·.span)) stop

theorem Admits.mono {route : Route} {rule : Production} {nodes : List Node}
    (h : chart.Admits rules route rule nodes) (hlater : later.Extends chart) :
    later.Admits rules route rule nodes where
  rule_eq := h.rule_eq
  lists := h.lists.mono hlater
  acceptEach := h.acceptEach
  adjacent := h.adjacent

/-- A path goes through adjacent nodes that match the patterns, and through a new one. -/
theorem mem_paths {position : Nat} {fresh : Bool} {patterns : List TagPattern} {ids : List Nat} :
    ids ∈ chart.paths frontier position fresh patterns ↔
      ∃ nodes, chart.Lists ids nodes ∧ TagPattern.AcceptEach patterns (nodes.map Node.toItem) ∧
        (∃ stop, Adjacent position (nodes.map (·.span)) stop) ∧
        (fresh ∨ ∃ id ∈ ids, frontier ≤ id) := by
  induction patterns generalizing position fresh ids with
  | nil =>
    rw [paths]
    constructor
    · intro h
      split at h
      next hfresh =>
        obtain rfl := List.mem_singleton.mp h
        exact ⟨[], .nil, .nil, ⟨position, rfl⟩, .inl hfresh⟩
      next => exact absurd h List.not_mem_nil
    · rintro ⟨nodes, hlists, haccepts, -, hfresh⟩
      have hnodes : nodes = [] := by simpa using List.forall₂_nil_left_iff.mp haccepts
      subst hnodes
      obtain rfl := List.forall₂_nil_right_iff.mp hlists
      have hfresh : fresh := hfresh.resolve_right fun ⟨_, hid, _⟩ ↦ absurd hid List.not_mem_nil
      rw [if_pos hfresh]
      exact List.mem_singleton.mpr rfl
  | cons pattern rest ih =>
    rw [paths, List.mem_flatMap]
    constructor
    · rintro ⟨id, hid, h⟩
      obtain ⟨node, hnode, hstart⟩ := mem_startingAt.mp hid
      simp only [hnode] at h
      split at h
      next haccepts =>
        obtain ⟨others, hothers, rfl⟩ := List.mem_map.mp h
        obtain ⟨nodes, hlists, hrest, ⟨stop, hadjacent⟩, hfresh⟩ := ih.mp hothers
        refine ⟨node :: nodes, .cons hnode hlists, .cons haccepts hrest,
          ⟨stop, hstart, hadjacent⟩, ?_⟩
        rw [Bool.or_eq_true, decide_eq_true_eq, or_assoc] at hfresh
        exact hfresh.imp_right (List.exists_mem_cons_iff _ _ _).mpr
      next => exact absurd h List.not_mem_nil
    · rintro ⟨nodes, hlists, haccepts, ⟨stop, hadjacent⟩, hfresh⟩
      cases hlists with
      | nil => cases haccepts
      | @cons id node others nodes hnode hlists =>
        cases haccepts with
        | cons haccepts hrest =>
          refine ⟨id, mem_startingAt.mpr ⟨node, hnode, hadjacent.1⟩, ?_⟩
          simp only [hnode]
          rw [if_pos haccepts]
          refine List.mem_map.mpr ⟨others, ih.mpr ⟨nodes, hlists, hrest, ⟨stop, hadjacent.2⟩, ?_⟩, rfl⟩
          rw [Bool.or_eq_true, decide_eq_true_eq, or_assoc]
          exact hfresh.imp_right (List.exists_mem_cons_iff _ _ _).mp

theorem mem_entries {id : Nat} {node : Node} :
    (id, node) ∈ chart.entries ↔ chart.get? id = some node := by
  unfold entries get?
  constructor
  · intro h
    obtain ⟨⟨other, index⟩, hmem, heq⟩ := List.mem_map.mp h
    obtain ⟨rfl, rfl⟩ := Prod.mk.inj heq
    simpa using List.mem_zipIdx_iff_getElem?.mp hmem
  · intro h
    exact List.mem_map.mpr ⟨(node, id), List.mem_zipIdx_iff_getElem?.mpr (by simpa using h), rfl⟩

theorem mem_routesFrom {id number : Nat} {node : Node} {route : Route} :
    route ∈ chart.routesFrom frontier rules id node number ↔
      ∃ rule pattern rest others, rules[number]? = some rule ∧ rule.pattern = pattern :: rest ∧
        pattern.accepts node.tag ∧ others ∈ chart.paths frontier node.stop (frontier ≤ id) rest ∧
        route = ⟨number, id :: others⟩ := by
  unfold routesFrom
  constructor
  · intro h
    split at h
    next name pattern rest result operations hrule =>
      split at h
      next haccepts =>
        obtain ⟨others, hothers, rfl⟩ := List.mem_map.mp h
        exact ⟨_, pattern, rest, others, hrule, rfl, haccepts, hothers, rfl⟩
      next => exact absurd h List.not_mem_nil
    next => exact absurd h List.not_mem_nil
  · rintro ⟨⟨name, _, result, operations⟩, pattern, rest, others, hrule, rfl, haccepts, hothers, rfl⟩
    simp only [hrule]
    rw [if_pos haccepts]
    exact List.mem_map.mpr ⟨others, hothers, rfl⟩

/-- The routes that are listed are those that some nodes admit, at least one of which is new. -/
theorem mem_freshRoutes {route : Route} :
    route ∈ chart.freshRoutes frontier rules (.ofRules rules) ↔
      (∃ rule nodes, chart.Admits rules route rule nodes) ∧ ∃ id ∈ route.nodes, frontier ≤ id := by
  unfold freshRoutes
  simp only [List.mem_flatMap]
  constructor
  · rintro ⟨⟨id, node⟩, hentry, number, -, hroute⟩
    have hnode := mem_entries.mp hentry
    obtain ⟨rule, pattern, rest, others, hrule, hpattern, haccepts, hothers, rfl⟩ :=
      mem_routesFrom.mp hroute
    obtain ⟨nodes, hlists, hrest, ⟨stop, hadjacent⟩, hfresh⟩ := mem_paths.mp hothers
    refine ⟨⟨rule, node :: nodes, hrule, .cons hnode hlists, ?_, node.start, stop, rfl, hadjacent⟩, ?_⟩
    · rw [hpattern]
      exact .cons haccepts hrest
    · rw [decide_eq_true_eq] at hfresh
      exact (List.exists_mem_cons_iff _ _ _).mpr hfresh
  · rintro ⟨⟨rule, nodes, hrule, hlists, haccepts, start, stop, hadjacent⟩, hfresh⟩
    obtain ⟨number, ids⟩ := route
    simp only at hrule hlists hfresh ⊢
    cases hlists with
    | nil => exact absurd hfresh (by simp)
    | @cons id node others nodes hnode hlists =>
      obtain ⟨pattern, rest, hfirst, hrest, hpattern⟩ := List.forall₂_cons_right_iff.mp haccepts
      refine ⟨(id, node), mem_entries.mpr hnode, number, ?_, ?_⟩
      · exact ProductionIndex.mem_candidates.mpr
          ⟨rule, hrule, pattern, by rw [hpattern, List.head?_cons], hfirst⟩
      · refine mem_routesFrom.mpr ⟨rule, pattern, rest, others, hrule, hpattern, hfirst, ?_, rfl⟩
        refine mem_paths.mpr ⟨nodes, hlists, hrest, ⟨stop, hadjacent.2⟩, ?_⟩
        rw [decide_eq_true_eq]
        exact (List.exists_mem_cons_iff _ _ _).mp hfresh

end Chart

end Morphology
