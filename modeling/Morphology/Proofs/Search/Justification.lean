import Morphology.Analysis.Basic
import Morphology.Proofs.Search.Saturation
import Morphology.Proofs.Search.Segmentation

/-!
# Justified charts

Every node of the chart was either found by a morph rule, or made by a production of nodes that
were there before it. The origin that a node keeps says by which rule and of which nodes, although
other rules or other nodes may have led to the same item later.
-/

namespace Morphology

/-- The origin of a node, under its number, is borne out by the chart. -/
inductive Node.Justified (grammar : Grammar) (text : List Char) (chart : Chart) (id : Nat)
    (node : Node) : Prop
  | morph (rule : Nat) (origin_eq : node.origin = .morph rule)
      (found : grammar.FindsMorph text rule node.start ⟨node.stop, node.features, node.tag⟩)
      (start_le : node.start ≤ text.length) (cuts_eq : node.cuts = [])
  | production (route : Route) (rule : Production) (nodes : List Node)
      (admits : chart.Admits grammar.rules.productions route rule nodes)
      (earlier : ∀ child ∈ route.nodes, child < id)
      (made : Saturation.makeNode rule route nodes = .ok (some node))

/-- The origins of all nodes are borne out. -/
def Chart.Justified (grammar : Grammar) (text : List Char) (chart : Chart) : Prop :=
  ∀ id node, chart.get? id = some node → node.Justified grammar text chart id

/-- A node that was made along a route of the chart has the item that the production makes, it is
not too deep, and it knows its origin. -/
theorem Grammar.makes_of_admits {grammar : Grammar} {chart : Chart} {route : Route}
    {rule : Production} {nodes : List Node} {node : Node}
    (hadmits : chart.Admits grammar.rules.productions route rule nodes)
    (hmade : Saturation.makeNode rule route nodes = .ok (some node)) :
    rule.Makes (nodes.map Node.toItem) node.toItem ∧ node.features.depth ≤ depthLimit ∧
      node.origin = .production route.rule route.nodes :=
  Saturation.makes_of_makeNode
    (grammar.validate_production (List.mem_of_getElem? hadmits.rule_eq)) hadmits hmade

namespace Node.Justified

variable {grammar : Grammar} {text : List Char} {chart later : Chart} {id : Nat} {node : Node}

theorem mono (h : node.Justified grammar text chart id) (hlater : later.Extends chart) :
    node.Justified grammar text later id := by
  cases h with
  | morph rule origin_eq found start_le cuts_eq => exact .morph rule origin_eq found start_le cuts_eq
  | production route rule nodes admits earlier made =>
    exact .production route rule nodes (admits.mono hlater) earlier made

/-- The nodes that a node was made of come before it. -/
theorem children_lt (h : node.Justified grammar text chart id) :
    ∀ child ∈ node.children, child < id := by
  unfold Node.children
  cases h with
  | morph rule origin_eq =>
    rw [origin_eq]
    exact fun child hchild ↦ absurd hchild List.not_mem_nil
  | production route rule nodes admits earlier made =>
    rw [(Grammar.makes_of_admits admits made).2.2]
    exact earlier

theorem depth_le (h : node.Justified grammar text chart id) : node.features.depth ≤ depthLimit := by
  cases h with
  | morph rule origin_eq found =>
    obtain ⟨_, -, hshallow, -⟩ := found.exists_way
    exact hshallow
  | production route rule nodes admits earlier made =>
    exact (Grammar.makes_of_admits admits made).2.1

end Node.Justified

/-- Adding nodes that are borne out by the chart leaves a justified chart. -/
theorem Chart.Justified.insertAll {grammar : Grammar} {text : List Char} {chart : Chart}
    {nodes : List Node} (h : chart.Justified grammar text)
    (hnodes : ∀ node ∈ nodes, ∀ id, chart.size ≤ id → node.Justified grammar text chart id) :
    (chart.insertAll nodes).2.Justified grammar text := by
  have hextends := Chart.extends_insertAll chart nodes
  intro id node hnode
  rcases Chart.get?_insertAll hnode with hold | ⟨hnew, hmem⟩
  · exact (h id node hold).mono hextends
  · exact (hnodes node hmem id hnew).mono hextends

namespace Saturation

variable {grammar : Grammar} {text : List Char}

/-- What a pass finds is made of nodes of the chart. -/
theorem made_of_pass {rules : List Production} {chart : Chart} {routes : List Route} {p q : Pass}
    (hroutes : ∀ route ∈ routes, ∃ rule nodes, chart.Admits rules route rule nodes)
    (hp : p.found = []) (h : (routes.foldlM (Pass.tryRoute rules chart) p).Yields q) :
    ∀ node ∈ q.found, ∃ route rule nodes, chart.Admits rules route rule nodes ∧
      makeNode rule route nodes = .ok (some node) := by
  refine h.foldlM (fun p : Pass ↦ ∀ node ∈ p.found, ∃ route rule nodes,
    chart.Admits rules route rule nodes ∧ makeNode rule route nodes = .ok (some node)) ?_ ?_
  · intro p q route hmem hp htry node hnode
    obtain ⟨rule, nodes, hroute⟩ := hroutes route hmem
    rcases Pass.cases_of_admits hroute htry with ⟨-, -, hfound⟩ | ⟨made, hmade, -, hfound⟩
    · exact hp node (hfound ▸ hnode)
    · rw [hfound] at hnode
      rcases List.mem_append.mp hnode with hnew | hold
      · exact ⟨route, rule, nodes, hroute, Option.mem_toList.mp hnew ▸ hmade⟩
      · exact hp node hold
  · rw [hp]
    exact fun node hnode ↦ absurd hnode List.not_mem_nil

/-- Adding what a pass over a justified chart finds leaves a justified chart. -/
theorem justified_of_found {s : Saturation} {p q : Pass} (hs : s.chart.Justified grammar text)
    (hp : p.found = [])
    (h : ((s.chart.freshRoutes s.frontier grammar.rules.productions
      (.ofRules grammar.rules.productions)).foldlM
        (Pass.tryRoute grammar.rules.productions s.chart) p).Yields q)
    {nodes : List Node} (hnodes : nodes ⊆ q.found) :
    (s.chart.insertAll nodes).2.Justified grammar text := by
  have hmade := made_of_pass (fun route hroute ↦ (Chart.mem_freshRoutes.mp hroute).1) hp h
  refine hs.insertAll fun node hnode id hid ↦ ?_
  obtain ⟨route, rule, children, hadmits, hmakes⟩ := hmade node (hnodes hnode)
  exact .production route rule children hadmits
    (fun child hchild ↦ Nat.lt_of_lt_of_le (hadmits.lists.lt_size child hchild) hid) hmakes

/-- A pass over a justified chart leaves a justified chart. -/
theorem justified_of_pass {s t : Saturation} {counts : PassCounts}
    (hs : s.chart.Justified grammar text)
    (h : (s.pass grammar.rules.productions (.ofRules grammar.rules.productions)).Yields (t, counts)) :
    t.chart.Justified grammar text := by
  obtain ⟨p, hp, hchart, -⟩ := chart_of_pass h
  rw [hchart]
  exact justified_of_found hs rfl hp fun node ↦ List.mem_reverse.mp

end Saturation

namespace Segmentation

theorem justified_of_isLeaf {grammar : Grammar} {text : List Char} {chart : Chart}
    (h : ∀ node ∈ chart.nodes, ∃ place, place ≤ text.length ∧ IsLeaf grammar text place node) :
    chart.Justified grammar text := by
  intro id node hnode
  obtain ⟨place, hplace, number, morph, hmorph, rfl⟩ := h node (Chart.mem_nodes_iff.mpr ⟨id, hnode⟩)
  exact .morph number rfl hmorph hplace rfl

theorem justified_of_covers {grammar : Grammar} {text : List Char} {chart : Chart}
    (h : Covers grammar text (text.length + 1) chart) : chart.Justified grammar text :=
  justified_of_isLeaf fun node hnode ↦
    let ⟨place, hplace, hleaf⟩ := h.isLeaf node hnode
    ⟨place, Nat.le_of_lt_succ hplace, hleaf⟩

end Segmentation

namespace Grammar

variable {grammar : Grammar} {text : List Char}

/-- A search is a segmentation, whose counts it keeps, and a run of passes. -/
theorem counted_parts_of_search {segmentation : PassCounts} {s : Saturation}
    {passes : List PassCounts} (h : (grammar.search text).Yields (segmentation, s, passes)) :
    ∃ progress, (Segmentation.run grammar text).Yields progress ∧ progress.counts = segmentation ∧
      (Saturation.run grammar.rules.productions { chart := progress.chart }).Yields (s, passes) := by
  unfold search at h
  obtain ⟨progress, hprogress, h⟩ := h.of_bind
  obtain ⟨⟨t, counts⟩, hrun, h⟩ := h.of_bind
  obtain ⟨hcounts, hrest⟩ := Prod.mk.inj (Search.yields_pure.mp h)
  obtain ⟨rfl, rfl⟩ := Prod.mk.inj hrest
  exact ⟨progress, hprogress, hcounts, hrun⟩

theorem parts_of_search {segmentation : PassCounts} {s : Saturation} {passes : List PassCounts}
    (h : (grammar.search text).Yields (segmentation, s, passes)) :
    ∃ progress, (Segmentation.run grammar text).Yields progress ∧
      (Saturation.run grammar.rules.productions { chart := progress.chart }).Yields (s, passes) :=
  let ⟨progress, hprogress, _, hrun⟩ := counted_parts_of_search h
  ⟨progress, hprogress, hrun⟩

/-- The chart that a search leaves is justified. -/
theorem justified_of_search {segmentation : PassCounts} {s : Saturation} {passes : List PassCounts}
    (h : (grammar.search text).Yields (segmentation, s, passes)) : s.chart.Justified grammar text := by
  obtain ⟨progress, hprogress, hrun⟩ := parts_of_search h
  exact Saturation.keeps_of_run (fun s ↦ s.chart.Justified grammar text)
    (fun _ _ _ ↦ Saturation.justified_of_pass)
    (Segmentation.justified_of_covers (Segmentation.covers_of_run hprogress)) hrun

end Grammar

end Morphology
