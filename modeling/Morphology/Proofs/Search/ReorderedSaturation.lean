import Morphology.Proofs.Search.Passes
import Morphology.Proofs.Search.ReorderedSegmentation

/-!
# Saturation with reordered grammars

Runs of two grammars that list the same productions in different orders, from charts with the same
items, make the same passes: each pass applies the same productions to the same items, and it adds
the same items. Routes cannot be compared by their numbers, since productions and nodes have other
numbers in the other run; they are compared by the production and the items that the numbers stand
for.
-/

namespace Morphology

namespace Chart

variable {chart later : Chart} {ids numbers : List Nat} {nodes others : List Node}

theorem getElem?_items (chart : Chart) (id : Nat) :
    chart.items[id]? = (chart.get? id).map Node.toItem := by
  unfold items get?
  rw [List.getElem?_map, Array.getElem?_toList]

/-- The first items of a later chart are those of the earlier one. -/
theorem Extends.take_items (h : later.Extends chart) :
    later.items.take chart.size = chart.items := by
  apply List.ext_getElem?
  intro id
  rw [List.getElem?_take]
  by_cases hid : id < chart.size
  · have hnode : chart.get? id = some chart.nodes[id] := Array.getElem?_eq_getElem hid
    rw [if_pos hid, getElem?_items, getElem?_items, hnode, h id _ hnode]
  · have hlength : chart.items.length ≤ id := by
      rw [length_items]
      exact Nat.le_of_not_lt hid
    rw [if_neg hid, List.getElem?_eq_none hlength]

/-- An item is among the first ones if its node is. -/
theorem mem_take_items {id n : Nat} {node : Node} (h : chart.get? id = some node) :
    node.toItem ∈ chart.items.take n ↔ id < n := by
  have hitem : chart.items[id]? = some node.toItem := by
    rw [getElem?_items, h, Option.map_some]
  constructor
  · intro hmem
    obtain ⟨i, hi⟩ := List.mem_iff_getElem?.mp hmem
    rw [List.getElem?_take] at hi
    split at hi
    next hlt =>
      rw [eq_of_getElem?_eq chart.nodup_items hitem hi]
      exact hlt
    next => exact absurd hi nofun
  · intro hid
    apply List.mem_of_getElem? (i := id)
    rw [List.getElem?_take, if_pos hid, hitem]

namespace Lists

/-- Nodes with the same items have the same numbers. -/
theorem ids_unique (h : chart.Lists ids nodes) (h' : chart.Lists numbers others)
    (hitems : nodes.map Node.toItem = others.map Node.toItem) : ids = numbers := by
  induction h generalizing numbers others with
  | nil =>
    obtain rfl := List.map_eq_nil_iff.mp hitems.symm
    exact (List.forall₂_nil_right_iff.mp h').symm
  | @cons id node ids nodes hnode hrest ih =>
    cases h' with
    | nil => exact absurd hitems nofun
    | @cons number other numbers others hother hlater =>
      obtain ⟨hfirst, hrest⟩ := List.cons.inj hitems
      rw [id_unique hnode hother hfirst, ih hlater hrest]

/-- Whether a node is new can be told from the items of the chart. -/
theorem exists_new_iff (h : chart.Lists ids nodes) (frontier : Nat) :
    (∃ id ∈ ids, frontier ≤ id) ↔
      ∃ item ∈ nodes.map Node.toItem, item ∉ chart.items.take frontier := by
  induction h with
  | nil => simp
  | @cons id node ids nodes hnode _ ih =>
    rw [List.map_cons, List.exists_mem_cons_iff, List.exists_mem_cons_iff, ih,
      mem_take_items hnode, Nat.not_lt]

end Lists

/-- What a route stands for: a production and the items to which it is applied. -/
def application (chart : Chart) (rules : List Production) (route : Route) :
    Option Production × List Item :=
  (rules[route.rule]?, (route.nodes.filterMap chart.get?).map Node.toItem)

theorem Admits.application_eq {rules : List Production} {route : Route} {rule : Production}
    (h : chart.Admits rules route rule nodes) :
    chart.application rules route = (some rule, nodes.map Node.toItem) := by
  unfold application
  rw [h.rule_eq, h.lists.filterMap_eq]

end Chart

namespace Saturation

/-! ## One route -/

/-- The item that a production makes depends on the items it is made of alone. -/
theorem map_toItem_makeNode {rule : Production} {route other : Route} {nodes others : List Node}
    (h : nodes.map Node.toItem = others.map Node.toItem) :
    (makeNode rule route nodes).map (·.map Node.toItem) =
      (makeNode rule other others).map (·.map Node.toItem) := by
  have hfeatures : nodes.map (·.features) = others.map (·.features) := by
    rw [map_features, map_features, h]
  have hcuts (start stop : Nat) : innerCuts start stop nodes = innerCuts start stop others := by
    have hall (nodes : List Node) : (nodes.flatMap fun child ↦ child.cuts ++ [child.stop]) =
        (nodes.map Node.toItem).flatMap fun item ↦ item.cuts ++ [item.stop] := by
      rw [List.flatMap_map]
    unfold innerCuts
    rw [hall nodes, hall others, h]
  have hfirst : nodes.head?.map Node.toItem = others.head?.map Node.toItem := by
    rw [← List.head?_map, ← List.head?_map, h]
  have hlast : nodes.getLast?.map Node.toItem = others.getLast?.map Node.toItem := by
    rw [← List.getLast?_map, ← List.getLast?_map, h]
  unfold makeNode
  cases hhead : nodes.head? with
  | none =>
    rw [hhead, Option.map_none, eq_comm, Option.map_eq_none_iff] at hfirst
    simp only [hfirst]
  | some first =>
    rw [hhead, Option.map_some, eq_comm, Option.map_eq_some_iff] at hfirst
    obtain ⟨first', hhead', hsame⟩ := hfirst
    cases hend : nodes.getLast? with
    | none =>
      rw [hend, Option.map_none, eq_comm, Option.map_eq_none_iff] at hlast
      simp only [hhead', hlast]
    | some last =>
      rw [hend, Option.map_some, eq_comm, Option.map_eq_some_iff] at hlast
      obtain ⟨last', hend', hsame'⟩ := hlast
      have hstart : first'.start = first.start := congrArg Item.start hsame
      have hstop : last'.stop = last.stop := congrArg Item.stop hsame'
      simp only [hhead', hend', hfeatures, hcuts, hstart, hstop]
      cases rule.combine (others.map (·.features)) with
      | error defect => rfl
      | ok built =>
        cases built with
        | none => rfl
        | some features =>
          simp only
          split <;> rfl

/-- Routes that stand for the same lead to nodes with the same item. -/
theorem agree_tryAlong {rules others : List Production} {chart other : Chart} {route route' : Route}
    (h : chart.application rules route = other.application others route') :
    Search.Agree (fun made made' ↦ made.map Node.toItem = made'.map Node.toItem)
      (tryAlong rules chart route) (tryAlong others other route') := by
  obtain ⟨hrule, hitems⟩ := Prod.mk.inj h
  unfold tryAlong
  rw [hrule]
  cases others[route'.rule]? with
  | none => exact Search.agree_pure rfl
  | some rule => exact (Search.agree_orFail rule.name (map_toItem_makeNode hitems)).step

/-! ## Passes -/

variable {a b : Grammar} {s t : Saturation}

/-- Two runs have found the same items, the same of them in the last pass, and have tried what there
was to try before. -/
structure Alike (a b : Grammar) (s t : Saturation) : Prop where
  items : s.chart.items.Perm t.chart.items
  seen : (s.chart.items.take s.frontier).Perm (t.chart.items.take t.frontier)
  current : Current a.rules.productions s
  current_other : Current b.rules.productions t

theorem Alike.symm (h : Alike a b s t) : Alike b a t s :=
  ⟨h.items.symm, h.seen.symm, h.current_other, h.current⟩

/-- For what one run has to try, there is the same to try in the other run. -/
theorem Alike.exists_due (h : Alike a b s t) (hab : a.Reorders b) {route : Route}
    (hroute : route ∈ s.due a.rules.productions) :
    ∃ route' ∈ t.due b.rules.productions,
      t.chart.application b.rules.productions route' =
        s.chart.application a.rules.productions route := by
  obtain ⟨hmem, hnew⟩ := mem_due.mp hroute
  obtain ⟨⟨rule, nodes, hadmits⟩, hnodes⟩ := Chart.mem_allRoutes.mp hmem
  obtain ⟨number, hnumber⟩ := List.mem_iff_getElem?.mp
    (hab.productions_perm.mem_iff.mp (List.mem_of_getElem? hadmits.rule_eq))
  have hitems : ∀ item ∈ nodes.map Node.toItem, item ∈ t.chart.items := by
    intro item hitem
    obtain ⟨node, hnode, rfl⟩ := List.mem_map.mp hitem
    exact h.items.mem_iff.mp (hadmits.lists.mem_items node hnode)
  obtain ⟨ids, others, hlists, hothers⟩ := Chart.Lists.exists_of_items hitems
  have hspans : others.map (·.span) = nodes.map (·.span) := by
    have hspan (nodes : List Node) : nodes.map (·.span) = (nodes.map Node.toItem).map (·.span) := by
      rw [List.map_map]
      rfl
    rw [hspan others, hspan nodes, hothers]
  have hadmits' : t.chart.Admits b.rules.productions ⟨number, ids⟩ rule others := by
    refine ⟨hnumber, hlists, ?_, ?_⟩
    · rw [hothers]
      exact hadmits.acceptEach
    · rw [hspans]
      exact hadmits.adjacent
  -- What is new is read off the items, as the numbers of the nodes have nothing in common.
  have hnew' : ∃ id ∈ ids, t.frontier ≤ id := by
    rw [hlists.exists_new_iff, hothers]
    obtain ⟨item, hitem, hnot⟩ := (hadmits.lists.exists_new_iff _).mp hnew
    exact ⟨item, hitem, fun hseen ↦ hnot (h.seen.mem_iff.mpr hseen)⟩
  have hids : ids ≠ [] := by
    obtain ⟨id, hid, -⟩ := hnew'
    exact List.ne_nil_of_mem hid
  refine ⟨⟨number, ids⟩, ?_, ?_⟩
  · exact mem_due.mpr ⟨Chart.mem_allRoutes.mpr ⟨⟨rule, others, hadmits'⟩, hids⟩, hnew'⟩
  · rw [hadmits'.application_eq, hadmits.application_eq, hothers]

/-- No two routes that a pass lists stand for the same. -/
theorem eq_of_application_eq {grammar : Grammar} {route route' : Route}
    (hroute : route ∈ s.due grammar.rules.productions)
    (hroute' : route' ∈ s.due grammar.rules.productions)
    (h : s.chart.application grammar.rules.productions route =
      s.chart.application grammar.rules.productions route') : route = route' := by
  obtain ⟨⟨rule, nodes, hadmits⟩, -⟩ := Chart.mem_allRoutes.mp (mem_due.mp hroute).1
  obtain ⟨⟨rule', nodes', hadmits'⟩, -⟩ := Chart.mem_allRoutes.mp (mem_due.mp hroute').1
  rw [hadmits.application_eq, hadmits'.application_eq] at h
  obtain ⟨hrule, hitems⟩ := Prod.mk.inj h
  have hnumber := eq_of_getElem?_eq grammar.nodup_productions hadmits.rule_eq
    (hadmits'.rule_eq.trans hrule.symm)
  have hids := hadmits.lists.ids_unique hadmits'.lists hitems
  obtain ⟨number, ids⟩ := route
  obtain ⟨number', ids'⟩ := route'
  exact congrArg₂ Route.mk hnumber hids

/-- Both runs have the same to try. -/
theorem Alike.sameUnder_due (h : Alike a b s t) (hab : a.Reorders b) :
    SameUnder (s.chart.application a.rules.productions) (t.chart.application b.rules.productions)
      (s.due a.rules.productions) (t.due b.rules.productions) := by
  apply sameUnder_of_keys (nodup_due _ s) (nodup_due _ t)
  · intro route hroute route' hroute' heq
    exact eq_of_application_eq hroute hroute' heq
  · intro route hroute route' hroute' heq
    exact eq_of_application_eq hroute hroute' heq
  · intro route hroute
    exact h.exists_due hab hroute
  · intro route hroute
    exact h.symm.exists_due hab.symm hroute

/-- Passes that try as much and make the same items leave the same items, with the same counts. -/
theorem Alike.of_passed (h : Alike a b s t) {s' t' : Saturation} {counts counts' : PassCounts}
    {made made' : List (Option Node)} (hs : Passed a.rules.productions s s' counts made)
    (ht : Passed b.rules.productions t t' counts' made')
    (hdue : (s.due a.rules.productions).length = (t.due b.rules.productions).length)
    (hmade : SameUnder (Option.map Node.toItem) (Option.map Node.toItem) made made') :
    Alike a b s' t' ∧ counts = counts' := by
  have hnodes : SameUnder Node.toItem Node.toItem made.reduceOption made'.reduceOption := by
    unfold SameUnder
    rw [← List.reduceOption_map, ← List.reduceOption_map]
    exact List.Perm.filterMap id hmade
  have hnone : made.countP (·.isNone) = made'.countP (·.isNone) := by
    have hcount := List.Perm.countP_eq Option.isNone hmade
    rw [List.countP_map, List.countP_map] at hcount
    simpa only [Function.comp_def, Option.isNone_map] using hcount
  obtain ⟨hitems, hproduced⟩ := Chart.perm_items_insertAll h.items hnodes
  constructor
  · refine ⟨?_, ?_, hs.current h.current, ht.current h.current_other⟩
    · rw [hs.chart_eq, ht.chart_eq]
      exact hitems
    · rw [hs.frontier_eq, ht.frontier_eq, hs.extends_chart.take_items, ht.extends_chart.take_items]
      exact h.items
  · rw [hs.counts_eq, ht.counts_eq, hdue, hproduced, hnone]

/-- A pass does the same work in both runs, and adds the same items. -/
theorem Alike.agree_pass (h : Alike a b s t) (hab : a.Reorders b) :
    Search.Agree (fun after after' ↦ Alike a b after.1 after'.1 ∧ after.2 = after'.2)
      (s.pass a.rules.productions (.ofRules a.rules.productions))
      (t.pass b.rules.productions (.ofRules b.rules.productions)) := by
  have hdue := h.sameUnder_due hab
  have hlength := List.Perm.length_eq hdue
  rw [List.length_map, List.length_map] at hlength
  have hmetered (grammar : Grammar) (s : Saturation) := Search.metered_mapM
    (metered_tryAlong grammar.rules.productions s.chart) (s.due grammar.rules.productions)
  rw [pass_eq h.current, pass_eq h.current_other]
  apply (Search.agree_mapM (metered_tryAlong _ t.chart) hdue
    fun route _ route' _ heq ↦ agree_tryAlong heq).bind
  intro made made' hmade hmade' hsame
  apply Search.agree_pure
  have hs := passed_finish ((hmetered a s).yields_iff.mpr hmade)
  have ht := passed_finish ((hmetered b t).yields_iff.mpr hmade')
  exact h.of_passed hs ht hlength hsame

/-- Both runs make the same passes. -/
theorem Alike.agree_run (h : Alike a b s t) (hab : a.Reorders b) :
    Search.Agree (fun after after' ↦ Alike a b after.1 after'.1 ∧ after.2 = after'.2)
      (s.run a.rules.productions) (t.run b.rules.productions) := by
  -- The first run alone carries the induction: the second one finds as much and stops with it.
  induction s using (wellFounded_advances a.rules.productions).induction generalizing t with
  | _ s ih =>
    rw [run_eq, run_eq]
    apply (h.agree_pass hab).bind
    intro (s', counts) (t', counts') hs _ ⟨hst, hcounts⟩
    simp only at hst hcounts
    subst hcounts
    by_cases hlast : counts.produced = 0
    · simp only [if_pos hlast]
      exact Search.agree_pure ⟨hst, rfl⟩
    · simp only [if_neg hlast]
      have hyields := (metered_pass a.rules.productions _ s).yields_iff.mpr hs
      apply (ih s' (advances_of_pass hyields hlast) hst).bind
      intro (final, later) (final', later') _ _ ⟨hfinal, hlater⟩
      simp only at hfinal hlater
      subst hlater
      exact Search.agree_pure ⟨hfinal, rfl⟩

end Saturation

end Morphology
